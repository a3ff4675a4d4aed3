import RobotsExclusion.Command.Session

/-!
# Folders

The files of one folder, as the names on a command line reach them: a name may begin with steps to
the folder itself, and a name that ends in such a step is no file.
-/

namespace RobotsExclusion.Command

abbrev Folder := List (Text × Bytes)

/-- A part of a path that stays in the same folder. -/
def staysHere (part : Text) : Bool := part = [] || part = ['.']

def Folder.file? (folder : Folder) (name : Text) : Option Bytes :=
  let parts := name.pieces '/'
  if name.head? = some '/' || (parts.getLast?.map staysHere).getD true then none
  else
    let plain := Text.join ['/'] (parts.filter (!staysHere ·))
    (folder.find? (·.1 = plain)).map Prod.snd

end RobotsExclusion.Command
