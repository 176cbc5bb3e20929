import WindowedLauncher.CommandLine.Alphabet

/-!
# Faithful arguments

Quoting does not double backslashes, so not every argument comes back from the
command line it is written on.  The faithful ones are those that need no
quotes, and those in which no backslash stands right before a double quote or
at the end; only the last symbol may be a double quote behind a single
backslash.  Main statement: `isFaithful_iff`, one pass over an argument decides
whether it is faithful.
-/

namespace WindowedLauncher.CommandLine

variable {α : Type} [Alphabet α]

/-- A text whose last symbol is a backslash. -/
def EndsInBackslash (text : List α) : Prop :=
  text.getLast? = some backslash

/-- No double quote after `passed` stands right behind a backslash, save one at
the very end behind a single backslash, and the end is no backslash. -/
def IsSafeAfter (passed text : List α) : Prop :=
  ¬ EndsInBackslash (passed ++ text) ∧
    ∀ before after, text = before ++ doubleQuote :: after →
      EndsInBackslash (passed ++ before) →
      after = [] ∧ ¬ EndsInBackslash (passed ++ before).dropLast

/-- What is asked of a text is asked of its first symbol and of the text after
it. -/
theorem isSafeAfter_cons (passed : List α) (symbol : α) (rest : List α) :
    IsSafeAfter passed (symbol :: rest) ↔
      (symbol = doubleQuote → EndsInBackslash passed →
        rest = [] ∧ ¬ EndsInBackslash passed.dropLast) ∧
      IsSafeAfter (passed ++ [symbol]) rest := by
  constructor
  · rintro ⟨endSafe, quotesSafe⟩
    refine ⟨?_, ?_, ?_⟩
    · rintro rfl behind
      simpa using quotesSafe [] rest rfl (by simpa using behind)
    · simpa using endSafe
    · rintro before after rfl behind
      simpa using
        quotesSafe (symbol :: before) after rfl (by simpa using behind)
  · rintro ⟨firstSafe, endSafe, quotesSafe⟩
    refine ⟨by simpa using endSafe, ?_⟩
    intro before after split behind
    cases before with
    | nil =>
      obtain ⟨rfl, rfl⟩ := List.cons.inj split
      simpa using firstSafe rfl (by simpa using behind)
    | cons head before =>
      obtain ⟨rfl, rfl⟩ := List.cons.inj split
      simpa using quotesSafe before after rfl (by simpa using behind)

/-- A text that ends in the given number of backslashes, counted up to two. -/
structure EndsIn (text : List α) (backslashes : Nat) : Prop where
  any : EndsInBackslash text ↔ 0 < backslashes
  two : EndsInBackslash text.dropLast ∧ EndsInBackslash text ↔ 1 < backslashes

/-- An empty text ends in no backslash. -/
theorem endsIn_nil : EndsIn ([] : List α) 0 := by
  constructor <;> simp [EndsInBackslash]

/-- A backslash more at the end is one more that it ends in. -/
theorem EndsIn.backslash
    {text : List α} {backslashes : Nat} (ends : EndsIn text backslashes) :
    EndsIn (text ++ [Alphabet.backslash]) (backslashes + 1) := by
  constructor
  · simp [EndsInBackslash]
  · rw [List.dropLast_concat, ends.any]
    simp [EndsInBackslash]

/-- Any other symbol at the end starts the count again. -/
theorem endsIn_concat_of_ne
    (text : List α) {symbol : α} (other : symbol ≠ backslash) :
    EndsIn (text ++ [symbol]) 0 := by
  constructor <;> simp [EndsInBackslash, other]

variable [DecidableEq α]

/-- The arguments that come back from a command line as they were written. -/
def IsFaithful (argument : List α) : Prop :=
  (∀ symbol ∈ argument, needsQuoting symbol = false) ∨ IsSafeAfter [] argument

instance (text : List α) : Decidable (EndsInBackslash text) :=
  inferInstanceAs (Decidable (text.getLast? = some backslash))

/-- Whether a text is safe right behind the given number of backslashes. -/
def isSafeBehind (backslashes : Nat) : List α → Bool
  | [] => backslashes = 0
  | symbol :: rest =>
    if symbol = backslash then
      isSafeBehind (backslashes + 1) rest
    else if symbol = doubleQuote then
      (backslashes = 0 || backslashes = 1 && rest.isEmpty) &&
        isSafeBehind 0 rest
    else
      isSafeBehind 0 rest

/-- Whether an argument comes back as it was written, found in one pass. -/
def isFaithful (argument : List α) : Bool :=
  !argument.any needsQuoting || isSafeBehind 0 argument

/-- What is behind a text counts only by the backslashes that it ends in. -/
theorem isSafeBehind_iff (text passed : List α) (backslashes : Nat)
    (ends : EndsIn passed backslashes) :
    isSafeBehind backslashes text = true ↔ IsSafeAfter passed text := by
  induction text generalizing passed backslashes with
  | nil =>
    have decided := ends.any
    simp only [isSafeBehind, IsSafeAfter, List.append_nil, decided,
      decide_eq_true_eq]
    constructor
    · rintro rfl
      exact ⟨Nat.lt_irrefl 0,
        fun before after impossible => absurd impossible (by simp)⟩
    · rintro ⟨none, _⟩
      omega
  | cons symbol rest ih =>
    rw [isSafeAfter_cons, isSafeBehind]
    by_cases isBackslash : symbol = backslash
    · subst isBackslash
      rw [if_pos rfl, ih _ _ ends.backslash]
      simp
    · rw [if_neg isBackslash]
      have next := ih _ _ (endsIn_concat_of_ne passed isBackslash)
      by_cases isQuote : symbol = doubleQuote
      · subst isQuote
        have any := ends.any
        have two := ends.two
        rw [if_pos rfl, Bool.and_eq_true, next]
        refine and_congr_left fun _ => ?_
        simp only [Bool.or_eq_true, Bool.and_eq_true, decide_eq_true_eq,
          List.isEmpty_iff, true_implies]
        constructor
        · rintro (none | ⟨one, empty⟩) behind
          · exact absurd (any.mp behind) (by omega)
          · exact ⟨empty, fun more => absurd (two.mp ⟨more, behind⟩) (by omega)⟩
        · intro safe
          by_cases behind : EndsInBackslash passed
          · obtain ⟨empty, single⟩ := safe behind
            have positive := any.mp behind
            have atMostOne : ¬ 1 < backslashes :=
              fun more => single (two.mpr more).1
            exact Or.inr ⟨by omega, empty⟩
          · have none : ¬ 0 < backslashes :=
              fun positive => behind (any.mpr positive)
            exact Or.inl (Nat.eq_zero_of_not_pos none)
      · rw [if_neg isQuote, next]
        simp [isQuote]

/-- One pass over an argument decides whether it is faithful. -/
theorem isFaithful_iff (argument : List α) :
    isFaithful argument = true ↔ IsFaithful argument := by
  rw [isFaithful, Bool.or_eq_true, isSafeBehind_iff argument [] 0 endsIn_nil]
  simp [IsFaithful]

instance (argument : List α) : Decidable (IsFaithful argument) :=
  decidable_of_iff _ (isFaithful_iff argument)

end WindowedLauncher.CommandLine
