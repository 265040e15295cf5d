import ImageLoader.Elf.Draft
import ImageLoader.Main
import ImageLoader.Scenario.Run
import ImageLoader.Proofs.Bytes
import ImageLoader.Proofs.Registry.Run
import ImageLoader.Proofs.Loader.InStep
import ImageLoader.Proofs.Session.Held
import ImageLoader.Proofs.Elf.Format
import ImageLoader.Proofs.Elf.Parse
import ImageLoader.Proofs.Elf.RoundTrip
import ImageLoader.Proofs.Lock.Kinds
import ImageLoader.Proofs.Lock.Exclusion
import ImageLoader.Proofs.Session.Exclusion
import ImageLoader.Proofs.Loader.Course
import ImageLoader.Proofs.Loader.Ledger
import ImageLoader.Proofs.Loader.Mirror
import ImageLoader.Proofs.Loader.Presence
import ImageLoader.Proofs.Session.Release
import ImageLoader.Proofs.Loader.Operation
import ImageLoader.Proofs.Session.Transparent
import ImageLoader.Proofs.Image.Sections
import ImageLoader.Proofs.Loader.History
import ImageLoader.Proofs.Loader.Lookup
import ImageLoader.Proofs.Session.Activity
import ImageLoader.Proofs.Session.Start
import ImageLoader.Proofs.Session.Assertion
import ImageLoader.Proofs.Lock.Bench
import ImageLoader.Proofs.Loader.Mapping
import ImageLoader.Proofs.Loader.Rejection
import ImageLoader.Proofs.Loader.Split
import ImageLoader.Proofs.Loader.Undo
import ImageLoader.Proofs.Loader.Sweep
import ImageLoader.Proofs.Lock.Ownership
import ImageLoader.Proofs.Session.Ownership
import ImageLoader.Proofs.ObjectWalk.Search
import ImageLoader.Proofs.ObjectWalk.Listing
import ImageLoader.Proofs.Image.Grouping
import ImageLoader.Proofs.Image.Extent
import ImageLoader.Proofs.Elf.Extension
import ImageLoader.Proofs.Loader.Containing
import ImageLoader.Proofs.Loader.Metadata
import ImageLoader.Proofs.Config
import ImageLoader.Proofs.ImageList.Slots
import ImageLoader.Proofs.Foreign
