import Mathlib.Data.List.Forall2
import PlantGrowth.Config.Basic
import PlantGrowth.Proofs.PlainText

/-!
# Which texts are colours

A text is a colour when it consists of six hexadecimal digits, perhaps with a hash before them and
with blanks around the whole.  A reader that counts and cuts by bytes takes the same texts: six
bytes that are all digits are six characters, so that no cut falls into the middle of one, and no
pair of them fails to be a number below 256.
-/

namespace PlantGrowth

open Scalar

/-! ## Digits -/

namespace Text

/-- The hexadecimal digits, each in the place of its value. -/
def hexDigits : List Char := "0123456789abcdef".toList

/-- The character stands for the value, in either case of letters. -/
def IsHexDigit (c : Char) (n : Nat) : Prop := hexDigits.idxOf? c.toLower = some n

variable {c : Char} {n : Nat}

theorem hexDigit?_of_ge (h : 128 ≤ c.toNat) : hexDigit? c = none := by
  have hnotLe : ∀ top : UInt32, top.toNat < 128 → ¬c.val ≤ top := by
    intro top htop hle
    have hle' : c.toNat ≤ top.toNat := UInt32.le_iff_toNat_le.mp hle
    omega
  have hdigit := hnotLe 57 (by decide)
  have hlower := hnotLe 102 (by decide)
  have hupper := hnotLe 70 (by decide)
  simp [hexDigit?, Char.isDigit, Char.le_def, hdigit, hlower, hupper]

theorem hexDigit?_eq (c : Char) : hexDigit? c = hexDigits.idxOf? c.toLower := by
  refine ascii_cases (P := fun c => hexDigit? c = hexDigits.idxOf? c.toLower) ?_ ?_ c
  · decide +kernel
  · intro c hc
    rw [hexDigit?_of_ge hc, toLower_of_ge hc, eq_comm, List.idxOf?_eq_none_iff]
    intro hmem
    have hall : (hexDigits.all fun d => d.toNat < 128) = true := by decide
    have hlt : c.toNat < 128 := by simpa using List.all_eq_true.mp hall c hmem
    omega

theorem hexDigit?_eq_some_iff : hexDigit? c = some n ↔ IsHexDigit c n := by
  rw [hexDigit?_eq, IsHexDigit]

theorem hexDigit?_toLower (c : Char) : hexDigit? c.toLower = hexDigit? c := by
  refine ascii_cases (P := fun c => hexDigit? c.toLower = hexDigit? c) ?_ ?_ c
  · decide +kernel
  · intro c hc
    rw [toLower_of_ge hc]

theorem IsHexDigit.lt (h : IsHexDigit c n) : n < 16 := by
  obtain ⟨hlt, _⟩ := List.idxOf?_eq_some_iff.mp h
  exact hlt

theorem IsHexDigit.plain (h : IsHexDigit c n) : isBlank c = false ∧ c ≠ '#' := by
  rw [← hexDigit?_eq_some_iff] at h
  revert h
  refine ascii_cases (P := fun c => hexDigit? c = some n → isBlank c = false ∧ c ≠ '#') ?_ ?_ c
  · have hall : ∀ k < 128, (hexDigit? (Char.ofNat k)).isSome = true →
        isBlank (Char.ofNat k) = false ∧ Char.ofNat k ≠ '#' := by
      decide +kernel
    intro k hk h
    exact hall k hk (by rw [h]; rfl)
  · intro c hc h
    rw [hexDigit?_of_ge hc] at h
    cases h

theorem exists_value_of_mem {digits : List Char} {values : List Nat}
    (h : List.Forall₂ IsHexDigit digits values) (hc : c ∈ digits) : ∃ n, IsHexDigit c n := by
  induction h with
  | nil => cases hc
  | @cons d n digits values hd _ ih =>
      rcases List.mem_cons.mp hc with rfl | hc
      · exact ⟨n, hd⟩
      · exact ih hc

theorem mapM_hexDigit?_eq_some_iff {digits : List Char} {values : List Nat} :
    digits.mapM hexDigit? = some values ↔ List.Forall₂ IsHexDigit digits values := by
  induction digits generalizing values with
  | nil => simp [eq_comm]
  | cons c digits ih =>
      simp only [List.mapM_cons, List.forall₂_cons_left_iff, ← hexDigit?_eq_some_iff, ← ih,
        Option.bind_eq_bind, Option.bind_eq_some_iff, Option.pure_def, Option.some.injEq]
      constructor
      · rintro ⟨n, hn, others, hothers, rfl⟩
        exact ⟨n, others, hn, hothers, rfl⟩
      · rintro ⟨n, others, hn, hothers, rfl⟩
        exact ⟨n, hn, others, hothers, rfl⟩

end Text

/-! ## The format -/

namespace Color

variable {text : String} {values : List Nat}

/-- The text is made of digits of the values, with a hash before them at most and with blanks
around the whole. -/
def Written (text : String) (values : List Nat) : Prop :=
  ∃ before hash digits after, text.toList = before ++ (hash ++ digits) ++ after ∧
    (∀ c ∈ before, Text.isBlank c = true) ∧ (∀ c ∈ after, Text.isBlank c = true) ∧
      (hash = [] ∨ hash = ['#']) ∧ List.Forall₂ Text.IsHexDigit digits values

theorem body_eq {hash digits : List Char} (htrim : Text.trim text.toList = hash ++ digits)
    (hhash : hash = [] ∨ hash = ['#']) (hdigits : List.Forall₂ Text.IsHexDigit digits values) :
    body text = digits := by
  rw [body, htrim]
  rcases hhash with rfl | rfl
  · cases hdigits with
    | nil => rfl
    | @cons c n digits values hc hrest =>
        have hne := hc.plain.2
        simp only [List.nil_append]
        split
        next heq => exact absurd (List.cons.inj heq).1 hne
        next => rfl
  · rfl

theorem exists_hash (text : String) :
    ∃ hash, (hash = [] ∨ hash = ['#']) ∧ Text.trim text.toList = hash ++ body text := by
  rw [body]
  split
  next rest heq => exact ⟨['#'], Or.inr rfl, heq⟩
  next => exact ⟨[], Or.inl rfl, rfl⟩

theorem written_iff :
    Written text values ↔ (body text).mapM Text.hexDigit? = some values := by
  rw [Text.mapM_hexDigit?_eq_some_iff]
  constructor
  · rintro ⟨before, hash, digits, after, htext, hbefore, hafter, hhash, hdigits⟩
    have hplain : ∀ c ∈ hash ++ digits, Text.isBlank c = false := by
      intro c hc
      rcases List.mem_append.mp hc with hc | hc
      · rcases hhash with rfl | rfl
        · cases hc
        · rw [List.mem_singleton.mp hc]
          decide
      · obtain ⟨n, hn⟩ := Text.exists_value_of_mem hdigits hc
        exact hn.plain.1
    have htrim := Text.trim_append_of_plain hbefore hplain hafter
    rw [← htext] at htrim
    rw [body_eq htrim hhash hdigits]
    exact hdigits
  · intro hdigits
    obtain ⟨hash, hhash, htrim⟩ := exists_hash text
    obtain ⟨before, after, htext, hbefore, hafter⟩ := (Text.trimsTo_trim text.toList).split
    rw [htrim] at htext
    exact ⟨before, hash, _, after, htext, hbefore, hafter, hhash, hdigits⟩

theorem channels?_eq_some_iff {r g b : Nat} :
    channels? text = some (r, g, b) ↔
      ∃ r1 r0 g1 g0 b1 b0, Written text [r1, r0, g1, g0, b1, b0] ∧
        r = 16 * r1 + r0 ∧ g = 16 * g1 + g0 ∧ b = 16 * b1 + b0 := by
  unfold channels?
  simp only [written_iff]
  cases (body text).mapM Text.hexDigit? with
  | none => simp
  | some values =>
      simp only [Option.bind_eq_bind, Option.bind_some, Option.some.injEq]
      constructor
      · intro h
        split at h
        next r1 r0 g1 g0 b1 b0 =>
          simp only [Option.pure_def, Option.some.injEq, Prod.mk.injEq] at h
          exact ⟨r1, r0, g1, g0, b1, b0, rfl, h.1.symm, h.2.1.symm, h.2.2.symm⟩
        next => cases h
      · rintro ⟨r1, r0, g1, g0, b1, b0, rfl, rfl, rfl, rfl⟩
        rfl

theorem toLower_eq_hash_iff (c : Char) : c.toLower = '#' ↔ c = '#' := by
  refine Text.ascii_cases (P := fun c => c.toLower = '#' ↔ c = '#') ?_ ?_ c
  · decide +kernel
  · intro c hc
    rw [Text.toLower_of_ge hc]

theorem body_toLower (text : String) :
    body (text.map Char.toLower) = (body text).map Char.toLower := by
  unfold body
  rw [String.toList_map, Text.trim_map Text.isBlank_toLower]
  cases Text.trim text.toList with
  | nil => rfl
  | cons c rest =>
      by_cases hc : c = '#'
      · subst c
        rfl
      · have hlower := (toLower_eq_hash_iff c).not.mpr hc
        simp [hc, hlower]

theorem ofText?_eq_some_iff {α : Type} [Scalar α] {v : Vec3 α} :
    ofText? text = some v ↔
      ∃ r1 r0 g1 g0 b1 b0, Written text [r1, r0, g1, g0, b1, b0] ∧
        v = ⟨channel (16 * r1 + r0), channel (16 * g1 + g0), channel (16 * b1 + b0)⟩ := by
  unfold ofText?
  rw [Option.map_eq_some_iff]
  constructor
  · rintro ⟨⟨r, g, b⟩, hchannels, rfl⟩
    obtain ⟨r1, r0, g1, g0, b1, b0, hwritten, rfl, rfl, rfl⟩ := channels?_eq_some_iff.mp hchannels
    exact ⟨r1, r0, g1, g0, b1, b0, hwritten, rfl⟩
  · rintro ⟨r1, r0, g1, g0, b1, b0, hwritten, rfl⟩
    exact ⟨_, channels?_eq_some_iff.mpr ⟨r1, r0, g1, g0, b1, b0, hwritten, rfl, rfl, rfl⟩, rfl⟩

theorem ofText?_eq_none_iff {α : Type} [Scalar α] :
    (ofText? text : Option (Vec3 α)) = none ↔
      ∀ values, values.length = 6 → ¬Written text values := by
  constructor
  · intro hnone values hlength hwritten
    match values, hlength with
    | [r1, r0, g1, g0, b1, b0], _ =>
        rw [ofText?_eq_some_iff.mpr ⟨r1, r0, g1, g0, b1, b0, hwritten, rfl⟩] at hnone
        cases hnone
  · intro hnot
    by_contra hsome
    obtain ⟨v, hv⟩ := Option.ne_none_iff_exists'.mp hsome
    obtain ⟨r1, r0, g1, g0, b1, b0, hwritten, -⟩ := ofText?_eq_some_iff.mp hv
    exact hnot _ rfl hwritten

theorem ofText?_toLower {α : Type} [Scalar α] (text : String) :
    (ofText? (text.map Char.toLower) : Option (Vec3 α)) = ofText? text := by
  have hdigits : Text.hexDigit? ∘ Char.toLower = Text.hexDigit? := funext Text.hexDigit?_toLower
  unfold ofText? channels?
  rw [body_toLower, List.mapM_map, hdigits]

end Color

/-! ## Reading by bytes -/

namespace Text

def utf8 (s : List Char) : List UInt8 := s.flatMap String.utf8EncodeChar

def isHexByte (b : UInt8) : Bool :=
  (48 ≤ b && b ≤ 57) || (65 ≤ b && b ≤ 70) || (97 ≤ b && b ≤ 102)

/-- The text cut at a byte, unless that is inside a character or behind the end. -/
def cutAtByte? : Nat → List Char → Option (List Char × List Char)
  | 0, s => some ([], s)
  | _ + 1, [] => none
  | n + 1, c :: s =>
    if c.utf8Size ≤ n + 1 then
      (cutAtByte? (n + 1 - c.utf8Size) s).map fun (front, back) => (c :: front, back)
    else none

def betweenBytes? (s : List Char) (first last : Nat) : Option (List Char) := do
  let (_, back) ← cutAtByte? first s
  let (middle, _) ← cutAtByte? (last - first) back
  return middle

/-- The number below 256 that a text stands for in base 16; a plus sign may stand before it. -/
def hexByte? (s : List Char) : Option Nat := do
  let digits :=
    match s with
    | '+' :: rest => rest
    | _ => s
  if digits.isEmpty then none
  else
    let values ← digits.mapM hexDigit?
    let n := values.foldl (fun n d => 16 * n + d) 0
    if n < 256 then some n else none

variable {c c' : Char} {hi lo : Nat} {s front middle back : List Char} {values : List Nat}

theorem length_utf8_cons (c : Char) (s : List Char) :
    (utf8 (c :: s)).length = c.utf8Size + (utf8 s).length := by
  unfold utf8
  rw [List.flatMap_cons, List.length_append, String.length_utf8EncodeChar]

theorem cutAtByte?_append (front back : List Char) :
    cutAtByte? (utf8 front).length (front ++ back) = some (front, back) := by
  induction front with
  | nil => cases back <;> rfl
  | cons c front ih =>
      have hpos := c.utf8Size_pos
      rw [length_utf8_cons]
      obtain ⟨n, hn⟩ : ∃ n, c.utf8Size + (utf8 front).length = n + 1 :=
        Nat.exists_eq_succ_of_ne_zero (by omega)
      have hle : c.utf8Size ≤ n + 1 := by omega
      have hrest : n + 1 - c.utf8Size = (utf8 front).length := by omega
      rw [hn, List.cons_append, cutAtByte?, if_pos hle, hrest, ih]
      rfl

theorem betweenBytes?_append {first last : Nat} (hfirst : first = (utf8 front).length)
    (hlast : last = first + (utf8 middle).length) :
    betweenBytes? (front ++ (middle ++ back)) first last = some middle := by
  have hwidth : last - first = (utf8 middle).length := by omega
  unfold betweenBytes?
  rw [hwidth, hfirst, cutAtByte?_append]
  simp only [Option.bind_eq_bind, Option.bind_some, cutAtByte?_append]
  rfl

theorem isHexByte_of_ge {n : Nat} (hge : 128 ≤ n) (hlt : n < 256) :
    isHexByte (UInt8.ofNat n) = false := by
  have hval : (UInt8.ofNat n).toNat = n := UInt8.toNat_ofNat_of_lt' hlt
  simp only [isHexByte, UInt8.le_iff_toNat_le, hval, UInt8.reduceToNat, Bool.or_eq_false_iff,
    Bool.and_eq_false_iff, decide_eq_false_iff_not]
  omega

theorem all_isHexByte_utf8EncodeChar (c : Char) :
    (String.utf8EncodeChar c).all isHexByte = (hexDigit? c).isSome := by
  refine ascii_cases (P := fun c =>
    (String.utf8EncodeChar c).all isHexByte = (hexDigit? c).isSome) ?_ ?_ c
  · decide +kernel
  · intro c hc
    have hlong : ¬c.val.toNat ≤ 127 := Nat.not_le.mpr hc
    rw [hexDigit?_of_ge hc]
    simp only [String.utf8EncodeChar, if_neg hlong]
    -- the first byte of several is no digit
    split_ifs <;>
      rw [List.all_cons, isHexByte_of_ge (by omega) (by omega), Bool.false_and, Option.isSome_none]

theorem utf8Size_of_hexDigit? (h : (hexDigit? c).isSome = true) : c.utf8Size = 1 := by
  rw [Char.utf8Size_eq_one_iff]
  by_contra hlarge
  have hge : 128 ≤ c.toNat := Nat.lt_of_not_le (UInt32.le_iff_toNat_le.not.mp hlarge)
  rw [hexDigit?_of_ge hge] at h
  cases h

theorem all_isHexByte_iff :
    (utf8 s).all isHexByte = true ↔ ∃ values, List.Forall₂ IsHexDigit s values := by
  unfold utf8
  simp only [List.all_flatMap, all_isHexByte_utf8EncodeChar, List.all_eq_true]
  induction s with
  | nil => simp
  | cons c s ih =>
      rw [List.forall_mem_cons, ih, Option.isSome_iff_exists]
      simp only [hexDigit?_eq_some_iff, List.forall₂_cons_left_iff]
      constructor
      · rintro ⟨⟨n, hn⟩, values, hvalues⟩
        exact ⟨n :: values, n, values, hn, hvalues, rfl⟩
      · rintro ⟨_, n, values, hn, hvalues, -⟩
        exact ⟨⟨n, hn⟩, values, hvalues⟩

theorem length_utf8_of_digits (h : List.Forall₂ IsHexDigit s values) :
    (utf8 s).length = values.length := by
  induction h with
  | nil => rfl
  | @cons c n s values hc _ ih =>
      have hone : c.utf8Size = 1 := utf8Size_of_hexDigit? (by rw [hexDigit?_eq_some_iff.mpr hc]; rfl)
      rw [length_utf8_cons, hone, ih, List.length_cons, Nat.add_comm]

theorem hexByte?_pair (hc : IsHexDigit c hi) (hc' : IsHexDigit c' lo) :
    hexByte? [c, c'] = some (16 * hi + lo) := by
  have hplus : c ≠ '+' := by
    rintro rfl
    have hnone : hexDigits.idxOf? '+'.toLower = none := by decide
    rw [IsHexDigit, hnone] at hc
    cases hc
  have hhi := hc.lt
  have hlo := hc'.lt
  have hfits : 16 * hi + lo < 256 := by omega
  rw [← hexDigit?_eq_some_iff] at hc hc'
  simp [hexByte?, hplus, hc, hc', hfits]

end Text

namespace Color

inductive ByteFault where
  | insideCharacter
  | noNumber

def pairAt (hex : List Char) (i : Nat) : Except ByteFault Nat := do
  let pair ← (Text.betweenBytes? hex (2 * i) (2 * i + 2)).elim (.error .insideCharacter) .ok
  (Text.hexByte? pair).elim (.error .noNumber) .ok

/-- The colour of a text whose bytes are counted and checked before pairs of them are cut out. -/
def byBytes {α : Type} [Scalar α] (text : String) :
    Except ByteFault (Except ConfigError (Vec3 α)) := do
  let hex := body text
  if (Text.utf8 hex).length = 6 ∧ (Text.utf8 hex).all Text.isHexByte then
    return .ok ⟨channel (← pairAt hex 0), channel (← pairAt hex 1), channel (← pairAt hex 2)⟩
  else
    return .error (.invalidColor text)

variable {c c' : Char} {i hi lo : Nat} {front back : List Char} {values : List Nat}

theorem pairAt_append (hfront : List.Forall₂ Text.IsHexDigit front values)
    (hlength : values.length = 2 * i) (hc : Text.IsHexDigit c hi) (hc' : Text.IsHexDigit c' lo) :
    pairAt (front ++ ([c, c'] ++ back)) i = .ok (16 * hi + lo) := by
  have hpair : List.Forall₂ Text.IsHexDigit [c, c'] [hi, lo] := .cons hc (.cons hc' .nil)
  have hfirst : 2 * i = (Text.utf8 front).length := by
    rw [Text.length_utf8_of_digits hfront, hlength]
  have hlast : 2 * i + 2 = 2 * i + (Text.utf8 [c, c']).length := by
    rw [Text.length_utf8_of_digits hpair, List.length_cons, List.length_singleton]
  unfold pairAt
  rw [Text.betweenBytes?_append hfirst hlast]
  change (Text.hexByte? [c, c']).elim (Except.error ByteFault.noNumber) Except.ok = _
  rw [Text.hexByte?_pair hc hc', Option.elim_some]

theorem bytes_fit_iff :
    (Text.utf8 (body text)).length = 6 ∧ (Text.utf8 (body text)).all Text.isHexByte = true ↔
      ∃ values, values.length = 6 ∧ Written text values := by
  simp only [written_iff, Text.mapM_hexDigit?_eq_some_iff, Text.all_isHexByte_iff]
  constructor
  · rintro ⟨hlength, values, hvalues⟩
    exact ⟨values, by rw [← Text.length_utf8_of_digits hvalues, hlength], hvalues⟩
  · rintro ⟨values, hlength, hvalues⟩
    exact ⟨by rw [Text.length_utf8_of_digits hvalues, hlength], values, hvalues⟩

theorem byBytes_eq {α : Type} [Scalar α] (text : String) :
    byBytes text = .ok (Config.color text : Except ConfigError (Vec3 α)) := by
  unfold byBytes Config.color
  cases hcolor : (ofText? text : Option (Vec3 α)) with
  | some v =>
      obtain ⟨r1, r0, g1, g0, b1, b0, hwritten, rfl⟩ := ofText?_eq_some_iff.mp hcolor
      rw [if_pos (bytes_fit_iff.mpr ⟨_, rfl, hwritten⟩)]
      rw [written_iff, Text.mapM_hexDigit?_eq_some_iff] at hwritten
      generalize body text = hex at hwritten
      match hex, hwritten with
      | [c1, c2, c3, c4, c5, c6],
          .cons h1 (.cons h2 (.cons h3 (.cons h4 (.cons h5 (.cons h6 _))))) =>
          have hred : pairAt [c1, c2, c3, c4, c5, c6] 0 = .ok (16 * r1 + r0) :=
            pairAt_append .nil rfl h1 h2
          have hgreen : pairAt [c1, c2, c3, c4, c5, c6] 1 = .ok (16 * g1 + g0) :=
            pairAt_append (.cons h1 (.cons h2 .nil)) rfl h3 h4
          have hblue : pairAt [c1, c2, c3, c4, c5, c6] 2 = .ok (16 * b1 + b0) :=
            pairAt_append (.cons h1 (.cons h2 (.cons h3 (.cons h4 .nil)))) rfl h5 h6
          rw [hred, hgreen, hblue]
          rfl
  | none =>
      have hfit : ¬((Text.utf8 (body text)).length = 6 ∧
          (Text.utf8 (body text)).all Text.isHexByte = true) := by
        rw [bytes_fit_iff]
        rintro ⟨values, hlength, hwritten⟩
        exact ofText?_eq_none_iff.mp hcolor values hlength hwritten
      rw [if_neg hfit]
      rfl

end Color

namespace Config

variable {α : Type} [Scalar α]

/-- A text is a colour if and only if it is written with six digits, two of them for each channel,
and any other text is the one that the error names.  The case of letters makes no difference, and
reading by bytes gives the same for every text, without a cut inside a character and without a pair
of bytes that is no number. -/
theorem color_reads_six_digits (text : String) :
    (∀ v : Vec3 α, color text = .ok v ↔
        ∃ r1 r0 g1 g0 b1 b0, Color.Written text [r1, r0, g1, g0, b1, b0] ∧
          v = ⟨Color.linear (Scalar.ofNat (16 * r1 + r0) / 255),
            Color.linear (Scalar.ofNat (16 * g1 + g0) / 255),
            Color.linear (Scalar.ofNat (16 * b1 + b0) / 255)⟩) ∧
      (∀ e, (color text : Except ConfigError (Vec3 α)) = .error e ↔
        (∀ values, values.length = 6 → ¬Color.Written text values) ∧ e = .invalidColor text) ∧
      (Color.ofText? (text.map Char.toLower) : Option (Vec3 α)) = Color.ofText? text ∧
      Color.byBytes text = .ok (color text : Except ConfigError (Vec3 α)) := by
  refine ⟨?_, ?_, Color.ofText?_toLower text, Color.byBytes_eq text⟩
  · intro v
    exact color_eq_ok_iff.trans Color.ofText?_eq_some_iff
  · intro e
    rw [color_eq_error_iff, Color.ofText?_eq_none_iff]

example : Color.channels? " #22C55e\n" = some (34, 197, 94) := by decide +kernel

example : Color.channels? "#ééé" = none ∧ (Text.utf8 "ééé".toList).length = 6 := by decide +kernel

end Config

end PlantGrowth
