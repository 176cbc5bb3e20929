/-!
# Faults

A fault is the cause for which something could not be done.  `Fault.message`
words it for a reader; of a fault in its context only the context is told
(`message_ofTexts`).
-/

namespace WindowedLauncher

/-- An error reported by a system call: its code, and the system's own words
for it if it has any. -/
structure SystemError where
  code : UInt32
  message : String := ""
deriving DecidableEq, Repr

namespace SystemError

/-- The facility of result codes that carry a system error code in their low
half. -/
def facility : UInt32 := 0x80070000

/-- The result code of an error.  A code that is zero, or negative as a signed
number, is a result code already; any other goes into the low half, under the
facility of system errors. -/
def result (error : SystemError) : UInt32 :=
  if error.code = 0 || 0x80000000 ≤ error.code then
    error.code
  else
    facility ||| (error.code &&& 0xFFFF)

/-- A word in eight hexadecimal digits. -/
def hexadecimal (word : UInt32) : String :=
  String.ofList (((Nat.toDigits 16 word.toNat).map Char.toUpper).leftpad 8 '0')

/-- The text of an error: the system's words and the result code, or the code
alone. -/
def text (error : SystemError) : String :=
  let code := "0x" ++ hexadecimal error.result
  if error.message.isEmpty then code else error.message ++ " (" ++ code ++ ")"

end SystemError

/-- The cause for which something could not be done. -/
inductive Fault where
  /-- The system gave an error number and nothing else. -/
  | osError (number : Int32)
  | system (error : SystemError)
  /-- A string holds a NUL, first at the given unit, where none may stand. -/
  | interiorNul (position : Nat)
  | negativeCount
  /-- A handle that names nothing was to be closed. -/
  | invalidHandle
  | described (text : String)
  | inContext (context : String) (cause : Fault)
deriving DecidableEq, Repr

namespace Fault

/-- The wording of a fault; of a fault in context, the context. -/
def message : Fault → String
  | .osError number => "(os error " ++ toString number.toInt ++ ")"
  | .system error => error.text
  | .interiorNul position =>
    "invalid nul value found at position " ++ toString position
  | .negativeCount => "number too small to fit in target type"
  | .invalidHandle => "cannot close an invalid handle"
  | .described text => text
  | .inContext context _ => context

/-- A cause given in words inside further contexts, the outermost text first. -/
def ofTexts (outermost : String) : List String → Fault
  | [] => .described outermost
  | next :: deeper => .inContext outermost (ofTexts next deeper)

/-- Of a cause in contexts the outermost text is told. -/
@[simp]
theorem message_ofTexts (outermost : String) (deeper : List String) :
    (ofTexts outermost deeper).message = outermost := by
  cases deeper <;> rfl

end Fault

end WindowedLauncher
