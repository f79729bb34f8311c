import Mathlib.Data.Nat.Cast.Order.Basic
import TypedTemplate.Schema.Assertion

/-!
# Usable operands

Whether a number is a multiple of a step can be told unless the step is zero, or a double has to be
found for a number or a step that is near to no finite one. A pattern is looked for in every text
once it can be read. Neither of them fails as data does that violates something.
-/
namespace TypedTemplate

namespace Fault

def isViolation : Fault → Bool
  | .violation _ _ => true
  | _ => false

/-- Whether a step fails only otherwise than by a violation. -/
def NoViolation {α : Type} (x : Except Fault α) : Prop :=
  ∀ f, x = .error f → f.isViolation = false

namespace NoViolation

variable {α β : Type} {f : Fault} {x : Except Fault α} {next : α → Except Fault β}

theorem ok (a : α) : NoViolation (.ok a : Except Fault α) := nofun

theorem error (h : f.isViolation = false) : NoViolation (.error f : Except Fault α) := by
  intro g hg
  rwa [← Except.error.inj hg]

theorem bind (hx : NoViolation x) (hnext : ∀ a, NoViolation (next a)) :
    NoViolation (x >>= next) := by
  cases x with
  | error f => exact fun g hg => hx g (congrArg Except.error (Except.error.inj hg))
  | ok a => exact hnext a

theorem throw_bind (h : f.isViolation = false) (next : α → Except Fault β) :
    NoViolation ((throw f : Except Fault α) >>= next) :=
  error h

theorem ite {c : Prop} [Decidable c] {y : Except Fault α} (hx : NoViolation x)
    (hy : NoViolation y) : NoViolation (if c then x else y) := by
  split
  · exact hx
  · exact hy

end NoViolation
end Fault

theorem twoTo_add {e d : Int} (he : 0 ≤ e) (hd : 0 ≤ d) :
    twoTo (e + d) = twoTo e * twoTo d := by
  rw [twoTo, Int.toNat_add he hd]
  exact Nat.pow_add 2 e.toNat d.toNat

theorem twoTo_one_add {e : Int} (he : 0 ≤ e) : twoTo (1 + e) = 2 * twoTo e :=
  twoTo_add (by decide) he

namespace Double

end Double

namespace Number

def isFinite : Number → Bool
  | .whole _ => true
  | .real x => x.isFinite

/-- Whether it can be told of a number if it is a multiple of a step. The step is a number other
than zero. A double is compared with the double near to a whole step, and the double near to a
number, which has to be finite, is divided by a step that is a double. -/
def IsMeasuredBy (n step : Number) : Prop :=
  step.same (.whole 0) = false ∧ step.isNaN = false ∧
  match n, step with
  | .whole _, .whole _ => True
  | .real _, .whole _ => step.exceedsDouble = false
  | _, .real _ => n.isFinite = true ∧ n.exceedsDouble = false

end Number

namespace Double

end Double

namespace Assertion

variable {n : Number} {step x : Double}

end Assertion

theorem Assertion.noViolation_isMultiple (n step : Number) :
    Fault.NoViolation (Assertion.isMultiple n step) := by
  cases step with
  | whole k =>
    rw [Assertion.isMultiple]
    unfold Assertion.isMultipleOfWhole
    split
    · exact .error rfl
    · split
      · exact .ok _
      · split
        · exact .error rfl
        · exact .ok _
  | real step =>
    rw [Assertion.isMultiple]
    unfold Assertion.isMultipleOfReal
    split
    · exact .error rfl
    · split
      · exact .error rfl
      · exact .error rfl
      · split
        · exact .ok _
        · exact .error rfl
      · exact .ok _

namespace Reading

open Fault

variable {r : Reading}

theorem noViolation_openGroup (name : Option Text) : NoViolation (r.openGroup name) := by
  unfold openGroup
  cases name with
  | none => exact .ok _
  | some name => exact .ite (.error rfl) (.ok _)

theorem noViolation_checkBehind (number : Nat) : NoViolation (r.checkBehind number) := by
  unfold checkBehind
  split
  · exact .ok _
  · exact .ite (.ok _) (.error rfl)

theorem noViolation_referTo (modes : Modes) (number : Nat) :
    NoViolation (r.referTo modes number) := by
  unfold referTo
  exact .ite (.bind (noViolation_checkBehind number) fun _ => .ok _) (.throw_bind rfl _)

theorem noViolation_takeName (close : Char) (signs : List Sign) :
    NoViolation (r.takeName close signs) := by
  unfold takeName
  split
  · exact .error rfl
  · exact .ok _

theorem noViolation_numberOf (name : Text) : NoViolation (r.numberOf name) := by
  unfold numberOf
  split
  · exact .ok _
  · exact .error rfl

theorem noViolation_close : NoViolation r.close := by
  unfold close
  split
  · exact .ok _
  · exact .error rfl

theorem noViolation_askedGroup (name : Text) : NoViolation (r.askedGroup name) := by
  have hbehind : ∀ (r : Reading) (number : Nat),
      NoViolation (r.checkBehind number >>= fun _ => pure (number, r)) := fun r number =>
    .bind (noViolation_checkBehind number) fun _ => .ok _
  unfold askedGroup
  dsimp only
  split
  · exact .bind (noViolation_numberOf name) fun number => hbehind r number
  · split
    · exact hbehind _ _
    · exact .throw_bind rfl _

end Reading

namespace Sign

open Fault

theorem noViolation_readTimes (digits : Text) : NoViolation (readTimes digits) := by
  unfold readTimes
  exact .ite (.error rfl) (.ok _)

theorem noViolation_readBounds (signs : List Sign) : NoViolation (readBounds signs) := by
  have hgreatest : ∀ digits, NoViolation (some <$> readTimes digits) := fun digits =>
    .bind (noViolation_readTimes digits) fun _ => .ok _
  unfold readBounds
  dsimp only
  split
  · refine .ite (.ok _) (.ite (.throw_bind rfl _) (.ite (.bind (.ok _) fun n => ?_)
      (.bind (noViolation_readTimes _) fun n => ?_)))
    all_goals
      refine .ite (.bind (.ok _) fun m => ?_) (.bind (hgreatest _) fun m => ?_) <;>
        exact .ite (.throw_bind rfl _) (.ok _)
  · exact .ok _

theorem noViolation_readRepetition (sign : Sign) (rest : List Sign) :
    NoViolation (readRepetition sign rest) := by
  unfold readRepetition
  split
  · exact .ok _
  · exact .ok _
  · exact .ok _
  · exact noViolation_readBounds rest
  · exact .ok _

end Sign

namespace Pattern

open Fault

variable {modes : Modes} {r : Reading}

theorem noViolation_readEscaped (c : Char) : NoViolation (readEscaped modes c r) := by
  unfold readEscaped
  split
  · exact .ok _
  · exact .ok _
  · split
    · exact .ok _
    · exact .error rfl

theorem noViolation_readNumbered (c : Char) : NoViolation (readNumbered modes c r) := by
  unfold readNumbered
  exact .ite (.ok _) (.ite (.ite (.throw_bind rfl _) (.ok _))
    (.bind (Reading.noViolation_referTo modes _) fun _ => .ok _))

theorem noViolation_readPiece (sign : Sign) : NoViolation (readPiece modes sign r) := by
  unfold readPiece
  split
  · exact .ite (noViolation_readNumbered _) (noViolation_readEscaped _)
  · split
    · exact .ok _
    · exact .error rfl
  · exact .ok _
  · exact .ok _
  · exact .ok _
  · exact .ok _
  · exact .error rfl

theorem noViolation_repeatLast (bounds : Nat × Option Nat) (pieces : List Piece) :
    NoViolation (repeatLast bounds pieces r) := by
  unfold repeatLast
  split
  · exact .ok _
  · exact .error rfl

theorem noViolation_inside {alternatives : Modes → Reading → Except Fault (Pattern × Reading)}
    (ha : ∀ modes r, NoViolation (alternatives modes r)) (modes : Modes) (rest : List Sign) :
    NoViolation (do
      let (p, r) ← alternatives modes { r with signs := rest }
      return (p, ← r.close)) :=
  .bind (ha modes _) fun _ => .bind Reading.noViolation_close fun _ => .ok _

theorem noViolation_capture {alternatives : Modes → Reading → Except Fault (Pattern × Reading)}
    (ha : ∀ modes r, NoViolation (alternatives modes r)) (name : Option Text) (r : Reading) :
    NoViolation (do
      let (number, r) ← r.openGroup name
      let (p, r) ← alternatives modes r
      let r ← r.close
      return (some (Pattern.group number p), modes, r.closeGroup number p)) :=
  .bind (Reading.noViolation_openGroup name) fun _ => .bind (ha modes _) fun _ =>
    .bind Reading.noViolation_close fun _ => .ok _

theorem noViolation_readGroup
    {alternatives sequence : Modes → Reading → Except Fault (Pattern × Reading)}
    (ha : ∀ modes r, NoViolation (alternatives modes r))
    (hs : ∀ modes r, NoViolation (sequence modes r)) (atStart : Bool) :
    NoViolation (readGroup alternatives sequence atStart modes r) := by
  unfold readGroup
  dsimp only
  split
  · exact .bind (noViolation_inside ha modes _) fun _ => .ok _
  · exact .bind (noViolation_inside ha modes _) fun _ => .ok _
  · exact .bind (noViolation_inside ha modes _) fun _ => .ok _
  · exact .bind (noViolation_inside ha modes _) fun _ => .ok _
  · exact .bind (ha modes _) fun _ => .bind Reading.noViolation_close fun _ => .ok _
  · exact .bind (ha modes _) fun _ => .bind Reading.noViolation_close fun _ => .ok _
  · exact .bind (Reading.noViolation_takeName _ _) fun _ => .ok _
  · exact .bind (Reading.noViolation_takeName _ _) fun _ =>
      .ite (noViolation_capture ha _ _) (.throw_bind rfl _)
  · exact .bind (Reading.noViolation_takeName _ _) fun _ =>
      .bind (Reading.noViolation_numberOf _) fun _ =>
        .bind (Reading.noViolation_referTo modes _) fun _ => .ok _
  · refine .bind (Reading.noViolation_takeName _ _) fun _ =>
      .bind (Reading.noViolation_askedGroup _) fun _ => .bind (hs modes _) fun _ => ?_
    split
    · exact .bind (hs modes _) fun _ => .bind Reading.noViolation_close fun _ => .ok _
    · exact .bind (.ok _) fun _ => .bind Reading.noViolation_close fun _ => .ok _
  · split
    · exact .error rfl
    · exact .bind (noViolation_inside ha _ _) fun _ => .ok _
    · exact .ite (.ok _) (.error rfl)
  · exact noViolation_capture ha none r

mutual

theorem noViolation_readAlternatives : ∀ (fuel : Nat) (level : Level) (modes : Modes)
    (r : Reading),
    NoViolation (readAlternatives fuel level modes r)
  | 0, _, _, _ => .error rfl
  | fuel + 1, level, modes, r => by
    rw [readAlternatives]
    refine .bind (noViolation_readSequence fuel level modes [] r) fun _ => ?_
    dsimp only
    split
    · exact .ite (.bind (noViolation_readAlternatives fuel .inner modes _) fun _ => .ok _)
        (.bind (noViolation_readAlternatives fuel .outer _ _) fun _ => .ok _)
    · exact .ok _

theorem noViolation_readSequence : ∀ (fuel : Nat) (level : Level) (modes : Modes)
    (pieces : List Piece) (r : Reading), NoViolation (readSequence fuel level modes pieces r)
  | 0, _, _, _, _ => .error rfl
  | fuel + 1, level, modes, pieces, r => by
    rw [readSequence]
    split
    · exact .ok _
    · exact .ok _
    · exact .ok _
    · dsimp only
      split
      · exact noViolation_readSequence fuel level modes pieces _
      · refine .bind (Sign.noViolation_readRepetition _ _) fun repetition => ?_
        split
        · exact .bind (noViolation_repeatLast _ _) fun _ =>
            noViolation_readSequence fuel level modes _ _
        · split
          · refine .bind (noViolation_readGroup ?_ ?_ _) fun _ =>
              noViolation_readSequence fuel level _ _ _
            · exact fun modes r => noViolation_readAlternatives fuel .inner modes r
            · exact fun modes r => noViolation_readSequence fuel .inner modes [] r
          · exact .bind (noViolation_readPiece _) fun _ =>
              noViolation_readSequence fuel level modes _ _

end

/-- Reading a pattern does not fail as data does that violates something. -/
theorem noViolation_read (t : Text) : NoViolation (read t) := by
  unfold read
  exact .bind (noViolation_readAlternatives _ _ _ _) fun _ =>
    .ite (.throw_bind rfl _) (.ite (.ok _) (.error rfl))

end Pattern

end TypedTemplate
