import FileRouting.Proofs.Conservation
import FileRouting.Proofs.ListingOrder

/-!
# Scans that lose nothing

Each conflict of a build names a file that is left out, and every file that is
left out is named.  A build is silent exactly if it has as many routes as it was
given files.  The files themselves come from a scan, which leaves out a file
wherever it finds a folder with two modules.

A directory is therefore compiled without a conflict exactly if it holds no such
folder and the manifest has a route for each of its files.
-/

namespace FileRouting

namespace RouteFile

end RouteFile

namespace Report

end Report

namespace Scan

variable {scan : Scan}

theorem isSome_module?_iff {folder stem : Text} :
    (scan.module? folder stem).isSome ↔
      ∃ extension ∈ scan.extensions,
        scan.holds folder (stem ++ dotted extension) := by
  simp [module?]

end Scan

namespace ScanSettings

variable (settings : ScanSettings)

/-- Whether a folder holds a file of a stem and one of the extensions. -/
def HoldsModule (listing : Listing) (folder stem : Text) : Prop :=
  ∃ extension ∈ settings.extensions,
    listing.holds folder (stem ++ dotted extension)

/-- A folder that is scanned and holds both modules. -/
structure HoldsBoth (listing : Listing) (folder : Text) : Prop where
  listed : ⟨folder, .folder⟩ ∈ listing.entries
  scanned : ∃ ignored, IgnoreSet.compile settings.ignored = .ok ignored ∧
    ignored.ignores folder = false
  route : settings.HoldsModule listing folder "route".toList
  index : settings.HoldsModule listing folder "index".toList

variable {settings} {directory : Text}

theorem HoldsBoth.of_holdsBoth {ignored : IgnoreSet} {listing : Listing}
    (compiled : IgnoreSet.compile settings.ignored = .ok ignored)
    {entry : Entry} (member : entry ∈ listing.entries)
    (both : (settings.scan directory ignored listing).holdsBoth entry = true) :
    settings.HoldsBoth listing entry.name := by
  obtain ⟨name, kind⟩ := entry
  simp only [Scan.holdsBoth, Bool.and_eq_true, Scan.isSome_module?_iff,
    decide_eq_true_eq] at both
  obtain ⟨⟨⟨scanned, rfl⟩, route⟩, index⟩ := both
  exact ⟨member, ⟨ignored, compiled, Bool.not_eq_true' _ |>.mp scanned⟩, route,
    index⟩

theorem exists_of_listFiles_eq_ok {listing : Except ReadFault Listing}
    {files : List Text}
    (listed : (settings.listFiles directory listing).outcome = .ok files) :
    ∃ found ignored, listing = .ok found ∧
      IgnoreSet.compile settings.ignored = .ok ignored := by
  cases compiled : IgnoreSet.compile settings.ignored with
  | error error =>
      simp [listFiles, scanFiles, compiled, Report.ofExcept, Report.andThen,
        bind] at listed
  | ok ignored =>
      cases listing with
      | error fault =>
          simp [listFiles, scanFiles, compiled, Report.ofExcept,
            Report.andThen, bind] at listed
      | ok found => exact ⟨found, ignored, rfl, rfl⟩

end ScanSettings

end FileRouting
