import Mathlib.Data.Nat.Init
import WindowedLauncher.Proofs.Written

/-!
# Command lines are unambiguous

Backslashes are not doubled, so a backslash and a double quote in a command
line may be an escaped double quote, or a backslash at the end of a quoted
argument.  Two readings of one line that disagree there stay out of step: one
is outside quotes wherever the other is inside (`insideQuotes_ne_outside`).
They cannot both end outside, so no two different argument vectors are
written in the same way.
-/

namespace WindowedLauncher.CommandLine

variable {α : Type} [Alphabet α] [DecidableEq α]

/-- The rest of a quoted argument, and the text behind its closing quote. -/
def insideQuotes (content behind : List α) : List α :=
  content.flatMap escape ++ doubleQuote :: behind

/-- The first symbol inside quotes closes them, opens an escape, or is text. -/
theorem insideQuotes_cases
    {content behind : List α} {symbol : α} {rest : List α}
    (equal : insideQuotes content behind = symbol :: rest) :
    (content = [] ∧ symbol = doubleQuote ∧ rest = behind) ∨
    (∃ after, content = doubleQuote :: after ∧ symbol = backslash ∧
      rest = doubleQuote :: insideQuotes after behind) ∨
    (∃ after, symbol ≠ doubleQuote ∧ content = symbol :: after ∧
      rest = insideQuotes after behind) := by
  cases content with
  | nil =>
      rcases List.cons.inj equal with ⟨rfl, rfl⟩
      exact Or.inl ⟨rfl, rfl, rfl⟩
  | cons head after =>
      rw [insideQuotes] at equal
      by_cases isQuote : head = doubleQuote
      · rw [isQuote, flatMap_escape_doubleQuote_cons] at equal
        rcases List.cons.inj equal with ⟨rfl, rfl⟩
        exact Or.inr (Or.inl ⟨after, by rw [isQuote], rfl, rfl⟩)
      · rw [flatMap_escape_cons_of_ne isQuote] at equal
        rcases List.cons.inj equal with ⟨rfl, rfl⟩
        exact Or.inr (Or.inr ⟨after, isQuote, rfl, rfl⟩)

/-- Inside quotes, a double quote without a backslash closes. -/
theorem insideQuotes_eq_doubleQuote_cons
    {content behind rest : List α}
    (equal : insideQuotes content behind = doubleQuote :: rest) :
    content = [] ∧ rest = behind := by
  rcases insideQuotes_cases equal with
    ⟨empty, -, same⟩ | ⟨after, -, clash, -⟩ | ⟨after, clash, -, -⟩
  · exact ⟨empty, same⟩
  · exact absurd clash.symm backslash_ne_doubleQuote
  · exact absurd rfl clash

/-- A wrapped argument opens quotes, and all that follows stands inside them. -/
theorem quote_append_of_isWrapped
    {argument : List α} (wrapped : isWrapped argument = true)
    (behind : List α) :
    quote argument ++ behind =
      doubleQuote :: insideQuotes argument behind := by
  rw [quote_of_isWrapped wrapped, insideQuotes, List.cons_append,
    List.append_assoc, List.singleton_append]

/-- Outside quotes no double quote follows directly. -/
theorem outside_ne_doubleQuote_cons
    {plain : List α} (unquoted : ∀ symbol ∈ plain, symbol ≠ doubleQuote)
    (arguments : List (List α)) (text : List α) :
    plain ++ written arguments ≠ doubleQuote :: text := by
  intro equal
  cases plain with
  | cons symbol plain =>
      exact unquoted symbol List.mem_cons_self (List.cons.inj equal).1
  | nil =>
      cases arguments with
      | nil => exact absurd equal (List.cons_ne_nil _ _).symm
      | cons argument arguments =>
          exact space_ne_doubleQuote (List.cons.inj equal).1

/-- What one reading has inside quotes, another does not have outside. -/
theorem insideQuotes_ne_outside
    {plain : List α} (unquoted : ∀ symbol ∈ plain, symbol ≠ doubleQuote)
    (content : List α) (inner outer : List (List α)) :
    insideQuotes content (written inner) ≠ plain ++ written outer := by
  -- At the next quoted argument the two readings change places, hence the
  -- induction on the length of the text that both of them read.
  generalize size : (plain ++ written outer).length = length
  induction length using Nat.strong_induction_on
    generalizing plain content inner outer with
  | _ length ih =>
      intro same
      cases plain with
      | cons symbol plain =>
          rcases List.forall_mem_cons.mp unquoted with
            ⟨notQuote, restUnquoted⟩
          rcases insideQuotes_cases same with
            ⟨-, isQuote, -⟩ | ⟨after, -, -, escaped⟩ |
              ⟨after, -, -, readOn⟩
          · exact notQuote isQuote
          · exact outside_ne_doubleQuote_cons restUnquoted _ _ escaped
          · exact ih _ (by rw [← size]; simp) restUnquoted after inner
              outer rfl readOn.symm
      | nil =>
          cases outer with
          | nil => exact absurd same (by simp [insideQuotes])
          | cons argument outer =>
              change insideQuotes content (written inner) =
                space :: (quote argument ++ written outer) at same
              change (space :: (quote argument ++ written outer)).length =
                length at size
              rcases insideQuotes_cases same with
                ⟨-, clash, -⟩ | ⟨after, -, clash, -⟩ |
                  ⟨after, -, -, readOn⟩
              · exact space_ne_doubleQuote clash
              · exact space_ne_backslash clash
              cases wrapped : isWrapped argument with
              | true =>
                  rw [quote_append_of_isWrapped wrapped] at readOn size
                  have swapped :=
                    (insideQuotes_eq_doubleQuote_cons readOn.symm).2
                  have shorter :
                      ([] ++ written inner).length < length := by
                    rw [← size, ← swapped, List.nil_append,
                      List.length_cons, List.length_cons]
                    omega
                  exact ih _ shorter (List.forall_mem_nil _) argument
                    outer inner rfl swapped
              | false =>
                  rw [quote_of_not_isWrapped wrapped] at readOn size
                  exact ih _ (by rw [← size]; simp)
                    (ne_doubleQuote_of_not_isWrapped wrapped) after inner
                    outer rfl readOn.symm

/-- Where the quotes of an argument end can be told from the line. -/
theorem insideQuotes_inj
    {first second : List α} {firstRest secondRest : List (List α)}
    (same : insideQuotes first (written firstRest) =
      insideQuotes second (written secondRest)) :
    first = second ∧ written firstRest = written secondRest := by
  -- An escaped double quote in one reading cannot close the other: what
  -- follows would be inside quotes here and outside there.
  have noClash : ∀ (content : List α) (inner outer : List (List α)),
      insideQuotes content (written inner) ≠ written outer :=
    insideQuotes_ne_outside (List.forall_mem_nil _)
  induction first generalizing second with
  | nil =>
      rcases insideQuotes_eq_doubleQuote_cons same.symm with
        ⟨empty, equal⟩
      exact ⟨empty.symm, equal⟩
  | cons symbol first ih =>
      by_cases isQuote : symbol = doubleQuote
      · subst isQuote
        have escaped :
            insideQuotes (doubleQuote :: first) (written firstRest) =
              backslash :: doubleQuote ::
                insideQuotes first (written firstRest) := by
          rw [insideQuotes, flatMap_escape_doubleQuote_cons]
          rfl
        rw [escaped] at same
        rcases insideQuotes_cases same.symm with
          ⟨-, clash, -⟩ | ⟨after, rfl, -, equal⟩ | ⟨after, -, -, equal⟩
        · exact absurd clash backslash_ne_doubleQuote
        · rcases ih (List.cons.inj equal).2 with ⟨rfl, restSame⟩
          exact ⟨rfl, restSame⟩
        · have closed := (insideQuotes_eq_doubleQuote_cons equal.symm).2
          exact absurd closed (noClash first firstRest secondRest)
      · have copied :
            insideQuotes (symbol :: first) (written firstRest) =
              symbol :: insideQuotes first (written firstRest) := by
          rw [insideQuotes, flatMap_escape_cons_of_ne isQuote]
          rfl
        rw [copied] at same
        rcases insideQuotes_cases same.symm with
          ⟨-, clash, -⟩ | ⟨after, -, -, equal⟩ | ⟨after, -, rfl, equal⟩
        · exact absurd clash isQuote
        · have closed := (insideQuotes_eq_doubleQuote_cons equal).2
          exact absurd closed (noClash after secondRest firstRest)
        · rcases ih equal with ⟨rfl, restSame⟩
          exact ⟨rfl, restSame⟩

/-- A quoted argument with written arguments behind it is read in one way. -/
theorem quote_append_written_inj
    {first second : List α} {firstRest secondRest : List (List α)}
    (same : quote first ++ written firstRest =
      quote second ++ written secondRest) :
    first = second ∧ written firstRest = written secondRest := by
  cases firstWrapped : isWrapped first with
  | true =>
      rw [quote_append_of_isWrapped firstWrapped] at same
      cases secondWrapped : isWrapped second with
      | true =>
          rw [quote_append_of_isWrapped secondWrapped] at same
          exact insideQuotes_inj (List.cons.inj same).2
      | false =>
          rw [quote_of_not_isWrapped secondWrapped] at same
          exact absurd same.symm (outside_ne_doubleQuote_cons
            (ne_doubleQuote_of_not_isWrapped secondWrapped) _ _)
  | false =>
      rw [quote_of_not_isWrapped firstWrapped] at same
      cases secondWrapped : isWrapped second with
      | true =>
          rw [quote_append_of_isWrapped secondWrapped] at same
          exact absurd same (outside_ne_doubleQuote_cons
            (ne_doubleQuote_of_not_isWrapped firstWrapped) _ _)
      | false =>
          rw [quote_of_not_isWrapped secondWrapped] at same
          have firstSolid := isBlank_of_not_isWrapped firstWrapped
          have secondSolid := isBlank_of_not_isWrapped secondWrapped
          constructor
          · rw [← takeWhile_append_written firstSolid firstRest, same,
              takeWhile_append_written secondSolid]
          · rw [← dropWhile_append_written firstSolid firstRest, same,
              dropWhile_append_written secondSolid]

/-- Different arguments are written differently. -/
theorem written_injective :
    Function.Injective (written : List (List α) → List α) := by
  intro first second same
  induction first generalizing second with
  | nil =>
      cases second with
      | nil => rfl
      | cons argument second => exact absurd same (by simp)
  | cons argument first ih =>
      cases second with
      | nil => exact absurd same (by simp)
      | cons other second =>
          rcases quote_append_written_inj (List.cons.inj same).2 with
            ⟨rfl, restSame⟩
          rw [ih restSame]

/--
No two different argument vectors are written in the same way, over UTF-16
units as over any other alphabet.
-/
theorem ofArguments_eq_ofArguments_iff
    (program other : List α) (arguments others : List (List α)) :
    ofArguments program arguments = ofArguments other others ↔
      program = other ∧ arguments = others := by
  constructor
  · intro same
    rcases quote_append_written_inj same with ⟨programSame, restSame⟩
    exact ⟨programSame, written_injective restSame⟩
  · rintro ⟨rfl, rfl⟩
    rfl

end WindowedLauncher.CommandLine
