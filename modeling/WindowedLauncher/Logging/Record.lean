import WindowedLauncher.Logging.Library
import WindowedLauncher.Logging.TimeStamp

/-!
# Log records

A record is a line with a time stamp, and with the severity, the origin and the
message of an event.  Characters of a message that could steer a terminal are
written out in hexadecimal; a line feed is written as it is.

Main statements: `lineFeeds_record` and `record_of_plain`, a record ends the
one line that it starts, and tells its event.
-/

namespace WindowedLauncher.Logging

/-- Whether a control character can steer a terminal: bell, backspace, form
feed, escape, delete. -/
def steersTerminal (character : Char) : Bool :=
  ['\x07', '\x08', '\x0c', '\x1b', '\x7f'].contains character

/-- Whether a character is a control character beyond the ASCII ones. -/
def isLateControl (character : Char) : Bool :=
  0x80 ≤ character.toNat && character.toNat ≤ 0x9F

/-- One character of a message as it is written in a record. -/
def writtenOut (character : Char) : List Char :=
  if steersTerminal character then
    '\\' :: 'x' :: (Nat.toDigits 16 character.toNat).leftpad 2 '0'
  else if isLateControl character then
    '\\' :: 'u' :: '\x7b' :: (Nat.toDigits 16 character.toNat ++ ['\x7d'])
  else
    [character]

/-- A message as it is written in a record. -/
def writtenMessage (message : String) : List Char :=
  message.toList.flatMap writtenOut

/-- The name of a severity, behind as many blanks as bring all to one width. -/
def paddedName (severity : Severity) : List Char :=
  severity.name.toList.leftpad 5 ' '

/-- The record of an event, with the time stamp of a moment. -/
def record (moment : Nat) (event : Event) : String :=
  String.ofList
      (TimeStamp.written moment ++ ' ' :: paddedName event.severity) ++
    " " ++ event.origin.path ++ ": " ++
    String.ofList (writtenMessage event.message) ++ "\n"

/-! ## Lines -/

theorem lineFeeds_eq_zero {text : String} (clean : '\n' ∉ text.toList) :
    lineFeeds text = 0 :=
  List.count_eq_zero_of_not_mem clean

/-- Digits that are written out bring no line feed. -/
theorem lineFeed_not_mem_toDigits {number : Nat} (small : number < 0xA0) :
    '\n' ∉ Nat.toDigits 16 number := by
  have each : ∀ number < 0xA0, '\n' ∉ Nat.toDigits 16 number := by
    decide +kernel
  exact each number small

/-- Only a line feed is written with a line feed. -/
theorem count_lineFeed_writtenOut (character : Char) :
    (writtenOut character).count '\n' = [character].count '\n' := by
  rw [writtenOut]
  split
  · next steers =>
    simp only [steersTerminal, List.contains_eq_mem, List.mem_cons,
      List.not_mem_nil, or_false, decide_eq_true_eq] at steers
    rcases steers with rfl | rfl | rfl | rfl | rfl <;> decide +kernel
  · split
    · next late =>
      simp only [isLateControl, Bool.and_eq_true, decide_eq_true_eq] at late
      have digits : '\n' ∉ Nat.toDigits 16 character.toNat :=
        lineFeed_not_mem_toDigits (by omega)
      have other : character ≠ '\n' := by
        rintro rfl
        exact absurd late.1 (by decide)
      simp [List.count_eq_zero_of_not_mem digits, other]
    · rfl

/-- A message is written with the line feeds that it has. -/
theorem count_lineFeed_writtenMessage (message : String) :
    (writtenMessage message).count '\n' = lineFeeds message := by
  rw [writtenMessage, lineFeeds]
  induction message.toList with
  | nil => rfl
  | cons character rest ih =>
      rw [List.flatMap_cons, List.count_append, count_lineFeed_writtenOut, ih,
        ← List.count_append]
      rfl

/-- The path of a part of the program stands on one line. -/
theorem lineFeeds_origin (origin : Origin) : lineFeeds origin.path = 0 := by
  cases origin <;> decide +kernel

/-- So does the name of a severity. -/
theorem lineFeed_not_mem_paddedName (severity : Severity) :
    '\n' ∉ paddedName severity := by
  cases severity <;> decide +kernel

/-- A record is one line, or has as many more as the message. -/
theorem lineFeeds_record (moment : Nat) (event : Event) :
    lineFeeds (record moment event) = lineFeeds event.message + 1 := by
  have head : lineFeeds (String.ofList
      (TimeStamp.written moment ++ ' ' :: paddedName event.severity)) = 0 := by
    apply lineFeeds_eq_zero
    simp [TimeStamp.lineFeed_not_mem_written, lineFeed_not_mem_paddedName]
  have message : lineFeeds (String.ofList (writtenMessage event.message)) =
      lineFeeds event.message := by
    rw [lineFeeds, String.toList_ofList, count_lineFeed_writtenMessage]
  have signs : lineFeeds " " = 0 ∧ lineFeeds ": " = 0 ∧ lineFeeds "\n" = 1 := by
    decide +kernel
  simp only [record, lineFeeds_append, head, message, lineFeeds_origin, signs]
  omega

/-! ## Plain messages -/

/-- A character that is no control character is written as it is. -/
theorem writtenOut_of_plain
    {character : Char} (visible : 0x20 ≤ character.toNat)
    (plain : character.toNat < 0x7F ∨ 0x9F < character.toNat) :
    writtenOut character = [character] := by
  have calm : steersTerminal character = false := by
    simp only [steersTerminal, List.contains_eq_mem, List.mem_cons,
      List.not_mem_nil, or_false, decide_eq_false_iff_not]
    rintro (rfl | rfl | rfl | rfl | rfl) <;> simp at visible plain
  have early : isLateControl character = false := by
    simp only [isLateControl, Bool.and_eq_false_iff, decide_eq_false_iff_not]
    omega
  simp [writtenOut, calm, early]

/-- A plain message is written as it is. -/
theorem writtenMessage_of_plain {event : Event} (plain : event.IsPlain) :
    writtenMessage event.message = event.message.toList := by
  rw [Event.IsPlain] at plain
  rw [writtenMessage]
  generalize event.message.toList = text at plain
  induction text with
  | nil => rfl
  | cons character rest ih =>
      rw [List.forall_mem_cons] at plain
      rw [List.flatMap_cons, writtenOut_of_plain plain.1.1 plain.1.2,
        ih plain.2]
      rfl

/-- A record of a plain message tells its event, behind a time stamp. -/
theorem record_of_plain
    (moment : Nat) {event : Event} (plain : event.IsPlain) :
    ∃ stamp, record moment event = stamp ++ event.line ++ "\n" := by
  obtain ⟨padding, padded⟩ : ∃ padding, paddedName event.severity =
      padding ++ event.severity.name.toList := ⟨_, rfl⟩
  refine ⟨String.ofList (TimeStamp.written moment ++ ' ' :: padding), ?_⟩
  apply String.toList_inj.mp
  simp [record, Event.line, writtenMessage_of_plain plain, padded]

end WindowedLauncher.Logging
