import Descent.Pattern.Machine
import Descent.Proofs.Parser.Run
import Descent.Proofs.Text.Onward

/-!
# Searches of the pattern machine

One step of a search, loops over sets of ASCII characters, and patterns that find as many characters
as can be counted otherwise: those answer like a scan.
-/

namespace Descent

namespace CharSet

/-- Only the first characters belong to ASCII. -/
theorem holds_of_isAscii {s : CharSet} (hs : s.isAscii = true) {n : Nat} (hn : 0x80 ≤ n) :
    holds n s.intervals = false := by
  obtain ⟨intervals⟩ := s
  induction intervals with
  | nil => rfl
  | cons interval intervals ih =>
    rw [isAscii, List.all_cons, Bool.and_eq_true, decide_eq_true_iff] at hs
    rw [holds, ih hs.2, Bool.or_false, Bool.and_eq_false_iff, decide_eq_false_iff_not,
      decide_eq_false_iff_not]
    exact .inr (by omega)

/-- In sets of ASCII characters are told by their code points. -/
theorem contains_of_isAscii {s : CharSet} (hs : s.isAscii = true) (c : Char) :
    s.contains c = holds c.toNat s.intervals := by
  rw [contains]
  by_cases hc : c.toNat < 0x80
  · rw [rank, if_pos (by omega)]
  · have hrank : 0x80 ≤ rank c.toNat := by
      rw [rank]
      split <;> omega
    rw [holds_of_isAscii hs hrank, holds_of_isAscii hs (Nat.not_lt.mp hc)]

end CharSet

namespace Pattern

/-- A matcher that finds as many characters as `f` counts, if it counts any. -/
def Finds (matcher : Matcher) (f : List Char → Option Nat) : Prop :=
  ∀ before after, matcher.find before after = (f after).map after.take

section Steps

variable {p : Program} {ways n : Nat} {next : List Nat} {instrs : List Instr} {isDone : Bool}
  (hwait : ∀ s, wait p s ways next = instrs) (before : Option Char) (count : Nat)
  (best : Option Nat)
include hwait

/-- At the end of the characters nothing more is read. -/
theorem searchFrom_nil :
    searchFrom p ways before next count best [] =
      if (advance none instrs).2 then some count else best := by
  rw [searchFrom, hwait]

variable {c : Char} (cs : List Char)

/-- A search ends in front of a character that no instruction reads. -/
theorem searchFrom_stop (h : advance (some c) instrs = ([], isDone)) :
    searchFrom p ways before next count best (c :: cs) = if isDone then some count else best := by
  rw [searchFrom, hwait, h]
  rfl

/-- A search goes on behind a character that an instruction reads. -/
theorem searchFrom_step (h : advance (some c) instrs = ([n], isDone)) :
    searchFrom p ways before next count best (c :: cs) =
      searchFrom p ways (some c) [n] (count + 1) (if isDone then some count else best) cs := by
  rw [searchFrom, hwait, h]
  rfl

omit hwait in
/-- A loop reads all characters of its set, and may be left behind each of them. -/
theorem searchFrom_loop {s : CharSet} {f : Char → Bool} (hs : ∀ c, s.contains c = f c)
    (hwait : ∀ s', wait p s' ways [n] = [.read s n, .done]) :
    searchFrom p ways before [n] count best cs = some (count + (cs.takeWhile f).length) := by
  induction cs generalizing before count best with
  | nil => exact searchFrom_nil hwait before count best
  | cons c cs ih =>
    cases hc : f c with
    | false =>
      have hstop : advance (some c) [.read s n, .done] = ([], true) := by simp [advance, hs, hc]
      rw [searchFrom_stop hwait before count best cs hstop,
        List.takeWhile_cons_of_neg (by simp [hc])]
      rfl
    | true =>
      have hstep : advance (some c) [.read s n, .done] = ([n], true) := by
        simp [advance, hs, hc]
      rw [searchFrom_step hwait before count best cs hstep, ih, List.takeWhile_cons_of_pos hc,
        List.length_cons, Nat.add_assoc, Nat.add_comm 1]

end Steps

/-- Without flags the machine runs the program of a pattern that is not too large. -/
theorem compile_of_expr {source : String} {expr : Expr}
    (hexpr : Expr.ofPattern? {} source.toList = some expr)
    (hsize : expr.instrCount ≤ Program.sizeLimit) :
    compile source "" = .ok ⟨describe source "", (Program.ofExpr expr).matcher⟩ := by
  have hcompile : Engine.compile {} source = .ok (Program.ofExpr expr).matcher := by
    simp only [Engine.compile, Settings.flags, hexpr, if_pos hsize]
  have hread : readFlags [] {} "".toList = .ok {} := rfl
  rw [compile, hread]
  simp only [bind, Except.bind, hcompile]
  rfl

end Pattern

namespace Parser

variable {A B : Type} {t : Text} {place : Position}

/-- What is made of the value of a scan may be made of what is scanned. -/
theorem parseAt_map_scan (f : List Char → Option (A × Nat)) (g : A → B) :
    ((scan f : Parser (Except Fault) _ _ _).map g).parseAt t place =
      (scan fun cs ↦ (f cs).map fun found ↦ (g found.1, found.2)).parseAt t place := by
  rw [parseAt_map, parseAt_scan, parseAt_scan]
  cases f (t.remaining place) with
  | none => rfl
  | some found =>
    dsimp only [Option.map_some]
    cases t.seek place
      (place.offset + utf8Length ((t.remaining place).take found.2)) <;> rfl

/-- A pattern that finds as many characters as `f` counts answers like a scan for them. -/
theorem parseAt_map_pattern {p : Pattern} {f : List Char → Option Nat}
    (hf : Pattern.Finds p.matcher f) (g : String → A) (hplace : t.Genuine place) :
    ((pattern p : Parser (Except Fault) _ _ _).map g).parseAt t place =
      ((scan fun cs ↦ (f cs).map fun n ↦ (g (String.ofList (cs.take n)), n)).label
        [p.name]).parseAt t place := by
  obtain ⟨before, hfind⟩ := matchAt_of_genuine hplace p
  rw [parseAt_map, parseAt_pattern, hfind, hf, parseAt_label, parseAt_scan]
  cases f (t.remaining place) with
  | none => rfl
  | some n =>
    dsimp only [Option.map_some]
    change (Except.map _ do
      return Result.ok (String.ofList ((t.remaining place).take n))
        (← t.seek place (place.offset + utf8Length ((t.remaining place).take n)))) = _
    cases t.seek place (place.offset + utf8Length ((t.remaining place).take n)) <;> rfl

end Parser

end Descent
