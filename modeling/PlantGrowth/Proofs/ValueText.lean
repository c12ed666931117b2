import PlantGrowth.Document.Printer
import PlantGrowth.Document.Record

/-!
# Values read back from a document

Behind a value in a document stands a comma or a closing parenthesis.  A reader reads a value back
from its text if, with such a rest behind it, it takes the text and nothing else; and where space
is skipped before the value, nothing of the text is skipped.
-/

namespace PlantGrowth.Document

/-! ## Space -/

theorem skipSpace_cons {c : Char} (hc : c ≠ '/') (rest : List Char) :
    skipSpace (c :: rest) = if isSpace c then skipSpace rest else some (c :: rest) := by
  have hslash : (c == '/') = false := beq_eq_false_iff_ne.mpr hc
  unfold skipSpace
  rw [skipSpaceFrom.eq_def]
  split <;> simp_all

/-- Whether a text begins with no space and no comment. -/
def BeginsBare : List Char → Prop
  | [] => False
  | c :: _ => isSpace c = false ∧ c ≠ '/'

theorem BeginsBare.append {s : List Char} (h : BeginsBare s) (t : List Char) :
    BeginsBare (s ++ t) := by
  cases s with
  | nil => exact h.elim
  | cons c rest => exact h

theorem BeginsBare.skipSpace {s : List Char} (h : BeginsBare s) : skipSpace s = some s := by
  cases s with
  | nil => exact h.elim
  | cons c rest => rw [skipSpace_cons h.2, h.1, if_neg Bool.false_ne_true]

theorem skipSpace_blanks (n : Nat) (s : List Char) :
    skipSpace (List.replicate n ' ' ++ s) = skipSpace s := by
  induction n with
  | zero => rfl
  | succ n ih => exact (skipSpace_cons (by decide) _).trans ih

theorem skipSpace_line (s : List Char) : skipSpace ('\n' :: s) = skipSpace s :=
  skipSpace_cons (by decide) s

theorem expect_self (c : Char) (s : List Char) : expect c (c :: s) = some s := by
  rw [expect, if_pos (beq_self_eq_true c)]

/-! ## The end of a value -/

/-- Whether a text begins with what may stand behind a value. -/
def EndsValue : List Char → Prop
  | [] => False
  | c :: _ => c = ',' ∨ c = ')'

theorem EndsValue.cases {s : List Char} (h : EndsValue s) :
    ∃ rest, s = ',' :: rest ∨ s = ')' :: rest := by
  cases s with
  | nil => exact h.elim
  | cons c rest =>
      rcases h with rfl | rfl
      · exact ⟨rest, Or.inl rfl⟩
      · exact ⟨rest, Or.inr rfl⟩

/-- Whether `read` reads the value `v` back from `text`. -/
structure ReadsBack {γ : Type} (read : Reader γ) (text : List Char) (v : γ) : Prop where
  begins : BeginsBare text
  read_eq : ∀ rest, EndsValue rest → read (text ++ rest) = some (v, rest)

theorem ReadsBack.map {γ δ : Type} {read : Reader γ} {text : List Char} {v : γ}
    (h : ReadsBack read text v) (f : γ → δ) :
    ReadsBack (fun s => (read s).map fun (n, rest) => (f n, rest)) text (f v) where
  begins := h.begins
  read_eq rest hrest := by rw [h.read_eq rest hrest, Option.map_some]

/-! ## Words -/

/-- A reader that reads a value back whichever end stands behind it. -/
theorem ReadsBack.of_ends {γ : Type} {read : Reader γ} {text : List Char} {v : γ}
    (hbegins : BeginsBare text)
    (hcomma : ∀ rest, read (text ++ ',' :: rest) = some (v, ',' :: rest))
    (hclose : ∀ rest, read (text ++ ')' :: rest) = some (v, ')' :: rest)) :
    ReadsBack read text v := by
  refine ⟨hbegins, fun rest hrest => ?_⟩
  obtain ⟨rest', rfl | rfl⟩ := hrest.cases
  · exact hcomma rest'
  · exact hclose rest'

theorem readsBack_bool (b : Bool) : ReadsBack bool? (boolOf b) b := by
  cases b with
  | true => exact .of_ends ⟨rfl, by decide⟩ (fun _ => rfl) fun _ => rfl
  | false => exact .of_ends ⟨rfl, by decide⟩ (fun _ => rfl) fun _ => rfl

theorem readsBack_option {β : Type} {read : Reader β} {text : β → List Char} {o : Option β}
    (h : ∀ b ∈ o, ReadsBack read (text b) b) :
    ReadsBack (option? read Dialect.plain) (optionOf text o) o := by
  cases o with
  | none => exact .of_ends ⟨rfl, by decide⟩ (fun _ => rfl) fun _ => rfl
  | some b =>
      have hb := h b rfl
      refine ⟨⟨rfl, by decide⟩, fun rest _ => ?_⟩
      have hvalue : read (text b ++ ')' :: rest) = some (b, ')' :: rest) :=
        hb.read_eq _ (Or.inr rfl)
      have hskip : skipSpace (text b ++ ')' :: rest) = some (text b ++ ')' :: rest) :=
        (hb.begins.append _).skipSpace
      have htext : optionOf text (some b) ++ rest = "Some(".toList ++ (text b ++ ')' :: rest) := by
        simp [optionOf]
      rw [htext]
      have hnone : dropWord? "None".toList ("Some(".toList ++ (text b ++ ')' :: rest)) = none := rfl
      have hsome : dropWord? "Some".toList ("Some(".toList ++ (text b ++ ')' :: rest)) =
          some ('(' :: (text b ++ ')' :: rest)) := rfl
      have hopen : skipSpace ('(' :: (text b ++ ')' :: rest)) =
          some ('(' :: (text b ++ ')' :: rest)) := rfl
      have hclose : comma (')' :: rest) = some (false, ')' :: rest) := rfl
      simp only [option?, hnone, hsome, hopen, expect_self, hskip, hvalue, hclose,
        Option.bind_eq_bind, Option.bind_some, Option.pure_def]

end PlantGrowth.Document
