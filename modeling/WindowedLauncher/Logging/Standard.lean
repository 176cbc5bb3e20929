import WindowedLauncher.Logging.Filter
import WindowedLauncher.Logging.Record
import WindowedLauncher.Logging.Reporting

/-!
# The standard library of a log

The filters, the records and the rules of error reporting that the program is
built with, as one library.
-/

namespace WindowedLauncher.Logging

/-- The filters, records and rules that the program is built with. -/
def Library.standard : Library where
  readFilter := Logging.readFilter
  record := Logging.record
  subscriberRefusal := "a global default trace dispatcher has already been set"
  reportingRefusal? := fun uses => (Reporting.after uses).refusal?
  readFilter_info := Logging.readFilter_info
  record_ends := fun _ _ => ⟨_, rfl⟩
  lineFeeds_record := Logging.lineFeeds_record
  record_of_plain := fun moment _ plain =>
    Logging.record_of_plain moment plain
  reportingRefusal?_nil := rfl
  isSome_reportingRefusal?_of_installed := fun _ installed =>
    Reporting.isSome_refusal?_after (List.ne_nil_of_mem installed)
  isSome_reportingRefusal?_of_described := fun _ described =>
    Reporting.isSome_refusal?_after (List.ne_nil_of_mem described)

end WindowedLauncher.Logging
