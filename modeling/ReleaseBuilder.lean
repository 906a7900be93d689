import ReleaseBuilder.Main
import ReleaseBuilder.Proofs.Compilers.Agreement
import ReleaseBuilder.Proofs.Release.Packaging
import ReleaseBuilder.Proofs.Release.Blame
import ReleaseBuilder.Proofs.Release.Target
import ReleaseBuilder.Proofs.Release.Destination
import ReleaseBuilder.Proofs.Release.Skipping
import ReleaseBuilder.Proofs.Release.Untouched
import ReleaseBuilder.Proofs.Console.Call
import ReleaseBuilder.Proofs.Variables.Preparation
import ReleaseBuilder.Proofs.Variables.Template
import ReleaseBuilder.Proofs.Compilers.Queries
import ReleaseBuilder.Proofs.Release.Quotes
import ReleaseBuilder.Proofs.Archive.Writing
import ReleaseBuilder.Proofs.Archive.Refusing
import ReleaseBuilder.Proofs.Archive.Listing
import ReleaseBuilder.Proofs.Archive.Rooting
import ReleaseBuilder.Proofs.Host.Piping
import ReleaseBuilder.Proofs.Variables.Layering
import ReleaseBuilder.Proofs.Settings.Writing
import ReleaseBuilder.Proofs.Platform.Recognition
import ReleaseBuilder.Proofs.Release.Labelling
