import RobotsExclusion.Command.Folder
import RobotsExclusion.Main
import RobotsExclusion.Proofs.Command.Checked
import RobotsExclusion.Proofs.Command.Isolated
import RobotsExclusion.Proofs.Command.Sitemaps
import RobotsExclusion.Proofs.Command.Undecided
import RobotsExclusion.Proofs.Decision.Insertion
import RobotsExclusion.Proofs.Decision.Merging
import RobotsExclusion.Proofs.Directive.Locality
import RobotsExclusion.Proofs.Layout
import RobotsExclusion.Proofs.Pattern.Stars
import RobotsExclusion.Proofs.Policy.Joined
import RobotsExclusion.Proofs.Policy.Messages
import RobotsExclusion.Proofs.Policy.Printed
import RobotsExclusion.Proofs.Policy.Provenance
import RobotsExclusion.Proofs.Policy.Reached
import RobotsExclusion.Proofs.Register
import RobotsExclusion.Proofs.Url.Canonical
