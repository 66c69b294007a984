import Throttling.ScaleFactor
import Throttling.Proofs.Numerals

/-!
# The text of a scale factor

A text stands for a factor if it has a numeral on either side of its first colon, each among blank
characters and in the range of 32 bits without zero. Exactly these texts are read, as the factor of
the two numerals, and the error for any other text carries that text. The canonical text of a factor
is one of them (`parse_exact`).
-/

set_option autoImplicit false

namespace Throttling.ScaleFactor

def IsPart (n : Nat) : Prop := 0 < n ∧ n < UInt32.size

/-- A text with two numerals around its first colon. -/
inductive Spelt : String → Nat → Nat → Prop where
  | mk {text : String} {left right : List Char} {numerator denominator : Nat}
      (split : text.toList = left ++ ':' :: right) (first : ':' ∉ left)
      (spaced : Text.Spaced left numerator) (spaced' : Text.Spaced right denominator) :
      Spelt text numerator denominator

theorem ofParts?_eq_some_iff {numerator denominator : Nat} {s : ScaleFactor} :
    ofParts? numerator denominator = some s ↔
      s.numerator = numerator ∧ s.denominator = denominator := by
  unfold ofParts?
  split
  · rw [Option.some_inj]
    constructor
    · rintro rfl
      exact ⟨rfl, rfl⟩
    · rintro ⟨rfl, rfl⟩
      rfl
  · rename_i out
    refine iff_of_false nofun ?_
    rintro ⟨rfl, rfl⟩
    exact out ⟨⟨s.numerator_pos, s.numerator_lt⟩, s.denominator_pos, s.denominator_lt⟩

/-- Where a text is split: it goes on with the first colon. -/
theorem split_iff {cs left right : List Char} :
    cs = left ++ ':' :: right ∧ ':' ∉ left ↔
      cs.takeWhile (· != ':') = left ∧ cs.dropWhile (· != ':') = ':' :: right := by
  constructor
  · rintro ⟨rfl, first⟩
    have before : ∀ c ∈ left, (c != ':') = true := fun c member =>
      bne_iff_ne.mpr fun colon => first (colon ▸ member)
    rw [List.takeWhile_append_of_pos before, List.dropWhile_append_of_pos before]
    simp
  · rintro ⟨rfl, rest⟩
    refine ⟨?_, fun member => ?_⟩
    · rw [← rest, List.takeWhile_append_dropWhile]
    · have kept := List.mem_takeWhile_imp member
      exact absurd kept (by decide)

/-- A text is read exactly as the factor that it stands for. -/
theorem parse?_eq_some_iff {text : String} {s : ScaleFactor} :
    parse? text = some s ↔ Spelt text s.numerator s.denominator := by
  unfold parse?
  constructor
  · intro read
    dsimp only at read
    split at read
    · cases read
    · rename_i c right dropped
      obtain rfl : c = ':' := by
        have stopped := List.head?_dropWhile_not (· != ':') text.toList
        simpa [dropped] using stopped
      obtain ⟨numerator, left, read⟩ := Option.bind_eq_some_iff.mp read
      obtain ⟨denominator, right, read⟩ := Option.bind_eq_some_iff.mp read
      obtain ⟨rfl, rfl⟩ := ofParts?_eq_some_iff.mp read
      obtain ⟨split, first⟩ := split_iff.mpr ⟨rfl, dropped⟩
      exact .mk split first (Text.signedNumeral?_trim_iff.mp left)
        (Text.signedNumeral?_trim_iff.mp right)
  · rintro ⟨split, first, spaced, spaced'⟩
    obtain ⟨taken, dropped⟩ := split_iff.mp ⟨split, first⟩
    rw [← Text.signedNumeral?_trim_iff] at spaced spaced'
    simp only [taken, dropped, spaced, spaced', Option.bind_eq_bind, Option.bind_some]
    exact ofParts?_eq_some_iff.mpr ⟨rfl, rfl⟩

theorem parse_eq_ok_iff {text : String} {s : ScaleFactor} :
    parse text = .ok s ↔ parse? text = some s := by
  unfold parse
  cases parse? text <;> simp

theorem parse_eq_error_iff {text : String} {e : Error} :
    parse text = .error e ↔ e = .invalidScaleFactor text ∧ parse? text = none := by
  unfold parse
  cases parse? text <;> simp [eq_comm]

/-- No text that stands for a factor is refused. -/
theorem parse?_eq_none_iff {text : String} :
    parse? text = none ↔
      ∀ numerator denominator, Spelt text numerator denominator →
        ¬ (IsPart numerator ∧ IsPart denominator) := by
  rw [Option.eq_none_iff_forall_ne_some]
  constructor
  · rintro refused numerator denominator spelt ⟨⟨n_pos, n_lt⟩, d_pos, d_lt⟩
    exact refused ⟨numerator, denominator, n_pos, n_lt, d_pos, d_lt⟩
      (parse?_eq_some_iff.mpr spelt)
  · intro beyond s read
    exact beyond _ _ (parse?_eq_some_iff.mp read)
      ⟨⟨s.numerator_pos, s.numerator_lt⟩, s.denominator_pos, s.denominator_lt⟩

/-- The canonical text stands for the factor. -/
theorem spelt_render (s : ScaleFactor) : Spelt s.render s.numerator s.denominator := by
  have text : s.render.toList =
      Nat.toDigits 10 s.numerator ++ ':' :: Nat.toDigits 10 s.denominator := by
    simp [render]
  refine .mk text (fun colon => ?_) (Text.spaced_toDigits _) (Text.spaced_toDigits _)
  cases (Text.isNumeral_toDigits s.numerator).digits _ colon

/-- Exactly the texts that stand for a factor are read, as this factor; any other text is refused
with an error that carries it. The canonical text of a factor, and so of any text that is read,
stands for the factor and is read as such. -/
theorem parse_exact (text : String) :
    (∀ s, parse text = .ok s ↔ Spelt text s.numerator s.denominator) ∧
    (∀ e, parse text = .error e ↔ e = .invalidScaleFactor text ∧
      ∀ numerator denominator, Spelt text numerator denominator →
        ¬ (IsPart numerator ∧ IsPart denominator)) ∧
    (∀ numerator denominator s, ofParts numerator denominator = .ok s →
      parse s.render = .ok s ∧ s.numerator = numerator ∧ s.denominator = denominator) ∧
    ∀ s, parse text = .ok s →
      Spelt s.render s.numerator s.denominator ∧ parse s.render = .ok s := by
  have canonical (s : ScaleFactor) : parse s.render = .ok s :=
    parse_eq_ok_iff.mpr (parse?_eq_some_iff.mpr s.spelt_render)
  refine ⟨fun s => parse_eq_ok_iff.trans parse?_eq_some_iff, fun e => ?_,
    fun numerator denominator s built => ⟨canonical s, ?_⟩, fun s _ => ⟨s.spelt_render, canonical s⟩⟩
  · rw [parse_eq_error_iff, parse?_eq_none_iff]
  · unfold ofParts at built
    split at built
    · rename_i s' parts
      cases built
      exact ofParts?_eq_some_iff.mp parts
    · cases built

/-- Blanks, a sign and leading zeros are read over, and gone from the canonical text. A numeral of
33 bits and a second colon are refused. -/
theorem parse_exact_spaced :
    let s : ScaleFactor := ⟨5, 4294967295, by decide, by decide, by decide, by decide⟩
    let text := " +005\t:\u3000004294967295 "
    parse text = .ok s ∧ Spelt text 5 4294967295 ∧ parse s.render = .ok s ∧
      s.render = "5:4294967295" ∧
      parse "5:4294967296" = .error (.invalidScaleFactor "5:4294967296") ∧
      ∀ numerator denominator, Spelt "1:2:3" numerator denominator →
        ¬ (IsPart numerator ∧ IsPart denominator) := by
  intro s text
  obtain ⟨accepts, -, -, canonical⟩ := parse_exact text
  have read : parse text = .ok s := by decide +kernel
  have refused : parse "1:2:3" = .error (.invalidScaleFactor "1:2:3") := by decide +kernel
  exact ⟨read, (accepts s).mp read, (canonical s read).2, by decide +kernel, by decide +kernel,
    (((parse_exact "1:2:3").2.1 _).mp refused).2⟩

end Throttling.ScaleFactor
