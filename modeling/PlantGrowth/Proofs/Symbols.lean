import PlantGrowth.Grammar.Basic
import PlantGrowth.Proofs.Brackets
import PlantGrowth.Taper.Scan
import Mathlib.Data.List.Basic

/-!
# Looking ahead over symbols

The look-aheads tell four kinds of symbols apart: the two brackets, the taper mark, and the symbols
that draw.  Here both are written over the symbols of a word themselves, and shown to find what
the look-aheads over its commands find.
-/

namespace PlantGrowth

namespace Command

def isForwardSymbol (symbol : Char) : Bool := symbol == 'F' || symbol == 'G'

theorem ofSymbol_eq_forward_iff (symbol : Char) :
    ofSymbol symbol = .forward ↔ isForwardSymbol symbol = true := by
  unfold ofSymbol
  split <;> simp_all [isForwardSymbol]

theorem countP_ofWord (word : Word) :
    ((ofWord word).countP fun c => c = .forward) = word.countP isForwardSymbol := by
  rw [ofWord, List.countP_map]
  apply List.countP_congr
  intro symbol _
  simp [ofSymbol_eq_forward_iff]

theorem ofSymbol_eq_push_iff (symbol : Char) : ofSymbol symbol = .push ↔ symbol = '[' := by
  unfold ofSymbol
  split <;> simp_all

theorem ofSymbol_eq_pop_iff (symbol : Char) : ofSymbol symbol = .pop ↔ symbol = ']' := by
  unfold ofSymbol
  split <;> simp_all

theorem ofSymbol_eq_taperMark_iff (symbol : Char) :
    ofSymbol symbol = .taperMark ↔ symbol = '!' := by
  unfold ofSymbol
  split <;> simp_all

theorem rise_ofSymbol_eq_zero {symbol : Char} (hpush : symbol ≠ '[') (hpop : symbol ≠ ']') :
    (ofSymbol symbol).rise = 0 := by
  have hup := (ofSymbol_eq_push_iff symbol).not.mpr hpush
  have hdown := (ofSymbol_eq_pop_iff symbol).not.mpr hpop
  cases hc : ofSymbol symbol <;> simp_all [Command.rise]

variable {word : Word} {k : Nat}

theorem getElem?_ofWord_eq_some_iff {c : Command} :
    (ofWord word)[k]? = some c ↔ ∃ symbol, word[k]? = some symbol ∧ ofSymbol symbol = c := by
  rw [ofWord, List.getElem?_map, Option.map_eq_some_iff]

theorem getElem?_ofWord_eq_pop_iff : (ofWord word)[k]? = some .pop ↔ word[k]? = some ']' := by
  simp [getElem?_ofWord_eq_some_iff, ofSymbol_eq_pop_iff]

theorem getElem?_ofWord_eq_taperMark_iff :
    (ofWord word)[k]? = some .taperMark ↔ word[k]? = some '!' := by
  simp [getElem?_ofWord_eq_some_iff, ofSymbol_eq_taperMark_iff]

theorem getElem?_ofWord_eq_forward_iff :
    (ofWord word)[k]? = some .forward ↔ word[k]?.any isForwardSymbol = true := by
  simp [getElem?_ofWord_eq_some_iff, ofSymbol_eq_forward_iff, Option.any_eq_true]

end Command

open Command

def MarkedRun.scanSymbolsFrom : Nat → Nat → Nat → Word → Option MarkedRun
  | _, _, _, [] => none
  | depth, segments, index, symbol :: rest =>
    if symbol = '[' then scanSymbolsFrom (depth + 1) segments (index + 1) rest
    else if symbol = ']' then
      match depth with
      | 0 => none
      | outer + 1 => scanSymbolsFrom outer segments (index + 1) rest
    else if symbol = '!' ∧ depth = 0 then if segments = 0 then none else some ⟨segments, index⟩
    else if isForwardSymbol symbol = true ∧ depth = 0 then
      scanSymbolsFrom depth (segments + 1) (index + 1) rest
    else scanSymbolsFrom depth segments (index + 1) rest

def growsOnSymbols : Word → Bool
  | [] => false
  | symbol :: rest =>
    if symbol = ']' then false
    else if symbol = '[' ∨ isForwardSymbol symbol = true then true
    else growsOnSymbols rest

theorem MarkedRun.scanSymbolsFrom_eq (depth segments index : Nat) (word : Word) :
    scanSymbolsFrom depth segments index word =
      scanFrom depth segments index (ofWord word) := by
  induction word generalizing depth segments index with
  | nil => rfl
  | cons symbol rest ih =>
      have hforward := ofSymbol_eq_forward_iff symbol
      have hpush := ofSymbol_eq_push_iff symbol
      have hpop := ofSymbol_eq_pop_iff symbol
      have hmark := ofSymbol_eq_taperMark_iff symbol
      simp only [scanSymbolsFrom, ← hforward, ← hpush, ← hpop, ← hmark, ofWord, List.map_cons]
      cases ofSymbol symbol with
      | forward =>
          by_cases hdepth : depth = 0
          · simp [scanFrom, hdepth, ih, ofWord]
          · simp [scanFrom, hdepth, ih, ofWord]
      | taperMark =>
          by_cases hdepth : depth = 0
          · simp [scanFrom, hdepth]
          · simp [scanFrom, hdepth, ih, ofWord]
      | pop =>
          cases depth with
          | zero => simp [scanFrom]
          | succ outer => simp [scanFrom, ih, ofWord]
      | _ => simp [scanFrom, ih, ofWord]

theorem growsOnSymbols_eq (word : Word) : growsOnSymbols word = growsOn (ofWord word) := by
  induction word with
  | nil => rfl
  | cons symbol rest ih =>
      have hforward := ofSymbol_eq_forward_iff symbol
      have hpush := ofSymbol_eq_push_iff symbol
      have hpop := ofSymbol_eq_pop_iff symbol
      simp only [growsOnSymbols, ← hforward, ← hpush, ← hpop, ofWord, List.map_cons]
      cases ofSymbol symbol <;> simp [growsOn, ih, ofWord]

end PlantGrowth
