import Mathlib.Data.List.Nodup
import PlantGrowth.Proofs.ValueText

/-!
# Records read back

A record is written field by field, and its reader looks every name up among the fields of its
kind.  If each line is read back by the field of its name, then reading the record does to any
record it starts from what the fields do one after the other; and when they set every part of it,
nothing of the record it starts from is left.
-/

namespace PlantGrowth.Document

/-! ## Names -/

/-- Whether a text is a name of small letters, perhaps with underscores among them. -/
def isPlainName : List Char → Bool
  | [] => false
  | c :: s => c.isLower && s.all fun d => d.isLower || d == '_'

theorem toNat_of_isLower {c : Char} (hc : c.isLower = true) : 97 ≤ c.toNat ∧ c.toNat ≤ 122 := by
  obtain ⟨hge, hle⟩ := (Bool.and_eq_true _ _).mp hc
  exact ⟨UInt32.le_iff_toNat_le.mp (of_decide_eq_true hge),
    UInt32.le_iff_toNat_le.mp (of_decide_eq_true hle)⟩

theorem isAlpha_of_isLower {c : Char} (hc : c.isLower = true) : c.isAlpha = true := by
  change (c.isUpper || c.isLower) = true
  rw [hc, Bool.or_true]

theorem isNamePart_of_isLower {c : Char} (hc : (c.isLower || c == '_') = true) :
    Text.isNamePart c = true := by
  rcases Bool.or_eq_true_iff.mp hc with hc | hc
  · have hlt : c.toNat < 0x80 := Nat.lt_of_le_of_lt (toNat_of_isLower hc).2 (by decide)
    rw [Text.isNamePart, if_pos hlt, Char.isAlphanum, isAlpha_of_isLower hc, Bool.true_or,
      Bool.true_or]
  · rw [beq_iff_eq.mp hc]
    rfl

theorem isFirst_of_isLower {c : Char} (hc : c.isLower = true) : isFirst c = true := by
  have hlt : c.toNat < 0x80 := Nat.lt_of_le_of_lt (toNat_of_isLower hc).2 (by decide)
  rw [isFirst, Text.isNameStart, if_pos hlt, isAlpha_of_isLower hc, Bool.or_true]

theorem name?_plain {s : List Char} (hs : isPlainName s = true) (rest : List Char) :
    name? (s ++ ':' :: rest) = some (s, ':' :: rest) := by
  cases s with
  | nil => cases hs
  | cons c s =>
      obtain ⟨hc, hall⟩ := (Bool.and_eq_true _ _).mp hs
      have hparts : ∀ d ∈ s, Text.isNamePart d = true := fun d hd =>
        isNamePart_of_isLower (List.all_eq_true.mp hall d hd)
      have htake : (s ++ ':' :: rest).takeWhile Text.isNamePart = s := by
        rw [List.takeWhile_append_of_pos hparts, List.takeWhile_cons_of_neg (by decide),
          List.append_nil]
      have hdrop : (s ++ ':' :: rest).dropWhile Text.isNamePart = ':' :: rest := by
        rw [List.dropWhile_append_of_pos hparts, List.dropWhile_cons_of_neg (by decide)]
      rw [List.cons_append, name?]
      · rw [if_pos (isFirst_of_isLower hc), htake, hdrop]
        rfl
      · -- the name is no mark of a raw one
        intro _ _ heq
        have hhash : '#' = ':' ∨ '#' ∈ s := by
          cases s with
          | nil => exact Or.inl (List.cons.inj heq).1.symm
          | cons d s => exact Or.inr ((List.cons.inj heq).1 ▸ List.mem_cons_self)
        rcases hhash with h | h
        · exact absurd h (by decide)
        · exact absurd (hparts '#' h) (by decide)

theorem beginsBare_plain {s : List Char} (hs : isPlainName s = true) : BeginsBare s := by
  cases s with
  | nil => cases hs
  | cons c s =>
      obtain ⟨hge, hle⟩ := toNat_of_isLower ((Bool.and_eq_true _ _).mp hs).1
      refine ⟨?_, ?_⟩
      · have hblank : c ≠ ' ' := by
          rintro rfl
          exact absurd hge (by decide)
        simp [isSpace, hblank]
        omega
      · rintro rfl
        exact absurd hge (by decide)

theorem expect_plain {s : List Char} (hs : isPlainName s = true) (rest : List Char) :
    expect ')' (s ++ rest) = none := by
  cases s with
  | nil => cases hs
  | cons c s =>
      have hge := (toNat_of_isLower ((Bool.and_eq_true _ _).mp hs).1).1
      have hc : ¬(c == ')') = true := by
        rw [beq_iff_eq]
        rintro rfl
        exact absurd hge (by decide)
      rw [List.cons_append, expect, if_neg hc]

/-! ## Fields -/

/-- Whether the fields read the lines back in turn, and `f` is what they do to a record. -/
inductive ReadInTurn {β : Type} : List (Field β) → List Entry → (β → β) → Prop
  | nil : ReadInTurn [] [] id
  | cons {field : Field β} {fields : List (Field β)} {text : List Char} {entries : List Entry}
      {f g : β → β}
      (read : ∀ depth b, ReadsBack (field.read Dialect.plain depth b) text (f b))
      (rest : ReadInTurn fields entries g) :
      ReadInTurn (field :: fields) ((field.name, text) :: entries) (g ∘ f)

/-- Whether the names of a kind can be told apart and are read as they stand. -/
structure Kind.Lawful {β : Type} (kind : Kind β) : Prop where
  nodup : (kind.fields.map Field.name).Nodup
  plain : ∀ field ∈ kind.fields, isPlainName field.name.toList = true

theorem find?_name {β : Type} {fields : List (Field β)} (hnodup : (fields.map Field.name).Nodup)
    {field : Field β} (hfield : field ∈ fields) :
    fields.find? (fun f => f.name.toList == field.name.toList) = some field := by
  induction fields with
  | nil => cases hfield
  | cons first fields ih =>
      rw [List.map_cons, List.nodup_cons] at hnodup
      rcases List.mem_cons.mp hfield with rfl | hmem
      · exact List.find?_cons_of_pos (beq_self_eq_true _)
      · have hne : first.name ≠ field.name := fun heq =>
          hnodup.1 (heq ▸ List.mem_map_of_mem hmem)
        rw [List.find?_cons_of_neg (by simpa [String.toList_inj] using hne)]
        exact ih hnodup.2 hmem

theorem entryText_append (width : Nat) (name : String) (text s : List Char) :
    entryText width (name, text) ++ s =
      List.replicate width ' ' ++ (name.toList ++ ':' :: ' ' :: (text ++ ',' :: '\n' :: s)) := by
  simp [entryText]

variable {β : Type} {kind : Kind β} {depth fuel width : Nat} {seen : List String} {b : β}
  {s t : List Char}

/-- Only what is left of a text behind its space is looked at. -/
theorem fieldsFrom?_of_skipSpace (hs : skipSpace s = some t) (ht : BeginsBare t) :
    fieldsFrom? kind Dialect.plain depth fuel seen b t =
      fieldsFrom? kind Dialect.plain depth fuel seen b s := by
  cases fuel with
  | zero => rfl
  | succ fuel => rw [fieldsFrom?, fieldsFrom?, hs, ht.skipSpace]

theorem fieldsFrom?_close (indent : Nat) (rest : List Char) :
    fieldsFrom? kind Dialect.plain depth (fuel + 1) seen b
      (List.replicate indent ' ' ++ ')' :: rest) = some (b, rest) := by
  have hclose : BeginsBare (')' :: rest) := ⟨rfl, by decide⟩
  rw [fieldsFrom?, skipSpace_blanks, hclose.skipSpace]
  simp only [expect_self, Option.bind_eq_bind, Option.bind_some, Option.pure_def]

/-- One line of a record is read into it, and its name is kept in mind. -/
theorem fieldsFrom?_line (hkind : kind.Lawful) {field : Field β} (hfield : field ∈ kind.fields)
    (hseen : field.name ∉ seen) {text : List Char} {b' : β}
    (hread : ReadsBack (field.read Dialect.plain (depth - 1) b) text b') (hs : skipSpace s = some t)
    (ht : BeginsBare t) :
    fieldsFrom? kind Dialect.plain depth (fuel + 1) seen b
        (entryText width (field.name, text) ++ s) =
      fieldsFrom? kind Dialect.plain depth fuel (field.name :: seen) b' s := by
  have hplain := hkind.plain field hfield
  have hname : skipSpace (field.name.toList ++ ':' :: ' ' :: (text ++ ',' :: '\n' :: s)) =
      some (field.name.toList ++ ':' :: ' ' :: (text ++ ',' :: '\n' :: s)) :=
    ((beginsBare_plain hplain).append _).skipSpace
  have hcolon : skipSpace (':' :: ' ' :: (text ++ ',' :: '\n' :: s)) =
      some (':' :: ' ' :: (text ++ ',' :: '\n' :: s)) := rfl
  have hvalue : skipSpace (' ' :: (text ++ ',' :: '\n' :: s)) =
      some (text ++ ',' :: '\n' :: s) :=
    (skipSpace_blanks 1 _).trans (hread.begins.append _).skipSpace
  have hfieldValue : fieldValue? kind Dialect.plain depth seen b field.name.toList
      (text ++ ',' :: '\n' :: s) = some (b', field.name :: seen, ',' :: '\n' :: s) := by
    have hcontains : seen.contains field.name = false := by
      rw [Bool.eq_false_iff, ne_eq, List.contains_iff_mem]
      exact hseen
    have htext := hread.read_eq (',' :: '\n' :: s) (Or.inl rfl)
    rw [fieldValue?, find?_name hkind.nodup hfield]
    simp only [hcontains, Bool.false_eq_true, if_false, htext, Option.map_some]
  have hcomma : comma (',' :: '\n' :: s) = some (true, t) := by
    have hopen : skipSpace (',' :: '\n' :: s) = some (',' :: '\n' :: s) := rfl
    rw [comma, hopen]
    simp only [skipSpace_line, hs, Option.bind_eq_bind, Option.bind_some, Option.pure_def]
  rw [entryText_append, fieldsFrom?, skipSpace_blanks, hname]
  simp only [expect_plain hplain, name?_plain hplain, hcolon, expect_self, hvalue, hfieldValue,
    hcomma, if_true, Option.bind_eq_bind, Option.bind_some]
  exact fieldsFrom?_of_skipSpace hs ht

/-- The lines of a record begin, behind some blanks, with a name or with the end. -/
theorem skipSpace_lines (hkind : kind.Lawful) {fields : List (Field β)} {entries : List Entry}
    {f : β → β} (h : ReadInTurn fields entries f) (hmem : ∀ field ∈ fields, field ∈ kind.fields)
    (width indent : Nat) (rest : List Char) :
    ∃ t, BeginsBare t ∧ skipSpace (entries.flatMap (entryText width) ++
      (List.replicate indent ' ' ++ ')' :: rest)) = some t := by
  cases h with
  | nil =>
      have hclose : BeginsBare (')' :: rest) := ⟨rfl, by decide⟩
      refine ⟨')' :: rest, hclose, ?_⟩
      rw [List.flatMap_nil, List.nil_append, skipSpace_blanks, hclose.skipSpace]
  | @cons field _ text entries =>
      have hbare := beginsBare_plain (hkind.plain field (hmem field List.mem_cons_self))
      rw [List.flatMap_cons, List.append_assoc, entryText_append, skipSpace_blanks]
      exact ⟨_, hbare.append _, (hbare.append _).skipSpace⟩

/-- All lines of a record are read, one after the other. -/
theorem fieldsFrom?_lines (hkind : kind.Lawful) {fields : List (Field β)} {entries : List Entry}
    {f : β → β} (h : ReadInTurn fields entries f) (hmem : ∀ field ∈ fields, field ∈ kind.fields)
    (hnodup : (fields.map Field.name).Nodup) (hseen : ∀ field ∈ fields, field.name ∉ seen)
    (hfuel : entries.length < fuel) (depth width indent : Nat) (b : β) (rest : List Char) :
    fieldsFrom? kind Dialect.plain depth fuel seen b
      (entries.flatMap (entryText width) ++ (List.replicate indent ' ' ++ ')' :: rest)) =
        some (f b, rest) := by
  induction h generalizing fuel seen b with
  | nil =>
      cases fuel with
      | zero => cases hfuel
      | succ fuel => exact fieldsFrom?_close indent rest
  | @cons field fields text entries f g read turn ih =>
      cases fuel with
      | zero => cases hfuel
      | succ fuel =>
          rw [List.map_cons, List.nodup_cons] at hnodup
          have hmem' : ∀ other ∈ fields, other ∈ kind.fields := fun other hother =>
            hmem other (List.mem_cons_of_mem field hother)
          have hseen' : ∀ other ∈ fields, other.name ∉ field.name :: seen := by
            intro other hother hin
            rcases List.mem_cons.mp hin with heq | hin
            · exact hnodup.1 (heq ▸ List.mem_map_of_mem hother)
            · exact hseen other (List.mem_cons_of_mem field hother) hin
          obtain ⟨t, ht, hs⟩ := skipSpace_lines hkind turn hmem' width indent rest
          rw [List.flatMap_cons, List.append_assoc,
            fieldsFrom?_line hkind (hmem field List.mem_cons_self)
              (hseen field List.mem_cons_self) (read (depth - 1) b) hs ht,
            ih hmem' hnodup.2 hseen' (Nat.lt_of_succ_lt_succ hfuel)]
          rfl

/-! ## Records -/

theorem length_le_lines (width : Nat) (entries : List Entry) :
    entries.length ≤ (entries.flatMap (entryText width)).length := by
  induction entries with
  | nil => exact Nat.le_refl _
  | cons e entries ih =>
      have hpos : 0 < (entryText width e).length :=
        List.length_pos_iff.mpr (List.append_ne_nil_of_right_ne_nil _ (List.cons_ne_nil ',' ['\n']))
      rw [List.flatMap_cons, List.length_append, List.length_cons]
      omega

/-- A record is read from its text, whatever stands behind it. -/
theorem record?_recordText (hkind : kind.Lawful) {entries : List Entry} {f : β → β}
    (h : ReadInTurn kind.fields entries f) (depth indent : Nat) (b : β) (rest : List Char) :
    record? kind Dialect.plain depth b (recordText indent entries ++ rest) = some (f b, rest) := by
  set lines := entries.flatMap (entryText (indent + 4)) ++
    (List.replicate indent ' ' ++ ')' :: rest) with hlines
  have htext : recordText indent entries ++ rest = '(' :: '\n' :: lines := by
    simp [recordText, hlines]
  have hname : kindName? Dialect.plain kind.name ('(' :: '\n' :: lines) =
      some ('(' :: '\n' :: lines) := rfl
  have hopen : skipSpace ('(' :: '\n' :: lines) = some ('(' :: '\n' :: lines) := rfl
  have hfuel : entries.length < ('\n' :: lines).length + 1 := by
    have hle := length_le_lines (indent + 4) entries
    rw [List.length_cons, hlines, List.length_append]
    omega
  obtain ⟨t, ht, hs⟩ := skipSpace_lines hkind h (fun _ hfield => hfield) (indent + 4) indent rest
  have hread := fieldsFrom?_lines hkind h (fun _ hfield => hfield) hkind.nodup
    (fun _ _ => List.not_mem_nil) hfuel (depth - 1) (indent + 4) indent b rest
  rw [htext, record?, hname]
  simp only [hopen, expect_self, Option.bind_eq_bind, Option.bind_some]
  rw [← fieldsFrom?_of_skipSpace ((skipSpace_line lines).trans hs) ht,
    fieldsFrom?_of_skipSpace hs ht]
  exact hread

/-- Whether the lines are read back as `v`, whatever the record is that they are read into. -/
def Kind.ReadsBack (kind : Kind β) (entries : List Entry) (v : β) : Prop :=
  ∃ f, ReadInTurn kind.fields entries f ∧ ∀ b, f b = v

theorem readsBack_record (hkind : kind.Lawful) {entries : List Entry} {v : β}
    (h : kind.ReadsBack entries v) (depth : Nat) (b : β) (indent : Nat) :
    ReadsBack (record? kind Dialect.plain depth b) (recordText indent entries) v := by
  obtain ⟨f, hturn, hf⟩ := h
  refine ⟨⟨rfl, by decide⟩, fun rest _ => ?_⟩
  rw [record?_recordText hkind hturn, hf]

/-! ## The fields of a record -/

theorem readsBack_field {γ : Type} {read : Reader γ} {text : List Char} {v : γ}
    (h : ReadsBack read text v) (name : String) (set : β → γ → β) (depth : Nat) (b : β) :
    ReadsBack ((Field.of name read set).read Dialect.plain depth b) text (set b v) := by
  refine ⟨h.begins, fun rest hrest => ?_⟩
  simp only [Field.of, h.read_eq rest hrest, Option.bind_eq_bind, Option.bind_some, Option.pure_def]

theorem readsBack_fieldOption {γ : Type} {read : Reader γ} {text : List Char} {v : Option γ}
    (h : ReadsBack (option? read Dialect.plain) text v) (name : String) (set : β → Option γ → β)
    (depth : Nat) (b : β) :
    ReadsBack ((Field.option name read set).read Dialect.plain depth b) text (set b v) := by
  refine ⟨h.begins, fun rest hrest => ?_⟩
  simp only [Field.option, h.read_eq rest hrest, Option.bind_eq_bind, Option.bind_some,
    Option.pure_def]

theorem readsBack_fieldRecord {γ : Type} {inner : Kind γ} (hinner : inner.Lawful)
    {entries : List Entry} {v : γ} (h : inner.ReadsBack entries v) (name : String) (get : β → γ)
    (set : β → γ → β) (indent depth : Nat) (b : β) :
    ReadsBack ((Field.record inner name get set).read Dialect.plain depth b)
      (recordText indent entries) (set b v) := by
  have hrecord := readsBack_record hinner h depth (get b) indent
  refine ⟨hrecord.begins, fun rest hrest => ?_⟩
  simp only [Field.record, hrecord.read_eq rest hrest, Option.bind_eq_bind, Option.bind_some,
    Option.pure_def]

/-! ## Documents -/

/-- A document that holds a record alone is read as that record. -/
theorem document?_recordText (hkind : kind.Lawful) {entries : List Entry} {v : β}
    (h : kind.ReadsBack entries v) (b : β) :
    document? kind b (String.ofList (recordText 0 entries)) = some v := by
  obtain ⟨f, hturn, hf⟩ := h
  have hopen : skipSpace (recordText 0 entries) = some (recordText 0 entries) := rfl
  have hhead : headFrom? ((recordText 0 entries).length + 1) Dialect.plain (recordText 0 entries) =
      some (Dialect.plain, recordText 0 entries) := rfl
  have hread := record?_recordText hkind hturn depthLimit 0 b []
  rw [List.append_nil, hf] at hread
  have hend : skipSpace [] = some [] := rfl
  rw [document?, String.toList_ofList, hopen]
  simp only [hhead, hread, hend, List.isEmpty_nil, if_true, Option.bind_eq_bind, Option.bind_some,
    Option.pure_def]

end PlantGrowth.Document
