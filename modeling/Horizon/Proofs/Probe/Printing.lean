/-
  Horizon.Proofs.Probe.Printing
  ─────────────────────────────
  **WHAT A RUN PRINTS.**

  The probe writes to a machine that keeps no record of what was written.  So its programs
  are run on the same machine with a list of the texts beside it: the machine does what it
  did, and the list says which texts it was given.

      a step              gives       prints
      pure value          value       nothing
      log event           nothing     nothing
      print text          nothing     text
      one and then more   the last    both, one behind the other

  From these four a program is read line by line.
-/
import Horizon.Probe

namespace Horizon

variable {m : Type → Type} [Monad m]

/-! ## §1. A machine with a list of what was printed. -/

/-- The same machine with a list of the texts that were printed. -/
def Host.noted (host : Host m) : Host (StateT (List String) m) where
  setting name := do host.setting name
  present path := do host.present path
  contents path := do host.contents path
  print text := do
    modify (· ++ [text])
    host.print text
  note line := do host.note line

namespace Probe

/-- The same session on a machine with a list of the texts that were printed. -/
def Session.noted (session : Session m) : Session (StateT (List String) m) where
  host := session.host.noted
  filter := session.filter

/-- A program gives this value and prints these texts, whatever the machine does: `plain`
runs on the machine, `noted` on the same with the list. -/
structure Prints {α : Type} (noted : StateT (List String) m α) (plain : m α)
    (texts : List String) (value : α) : Prop where
  gives : plain = (fun _ => value) <$> plain
  prints (notes : List String) :
    noted.run notes = (fun _ => (value, notes ++ texts)) <$> plain

namespace Prints

variable [LawfulMonad m]

/-! ## §2. Steps. -/

protected theorem pure {α : Type} (value : α) :
    Prints (pure value) (pure value : m α) [] value where
  gives := (map_pure (fun _ => value) value).symm
  prints notes := by rw [StateT.run_pure, map_pure, List.append_nil]

/-- **One program and then another** print one behind the other. -/
protected theorem bind {α β : Type} {noted : StateT (List String) m α} {plain : m α}
    {texts more : List String} {value : α} {result : β}
    {notedNext : α → StateT (List String) m β} {plainNext : α → m β}
    (first : Prints noted plain texts value)
    (second : Prints (notedNext value) (plainNext value) more result) :
    Prints (noted >>= notedNext) (plain >>= plainNext) (texts ++ more) result := by
  -- what the first program gives is known, so the second is the same on every machine
  have next : plain >>= plainNext = plain >>= fun _ => plainNext value := by
    rw [first.gives, bind_map_left, bind_map_left]
  constructor
  · rw [next, map_bind, ← second.gives]
  · intro notes
    rw [StateT.run_bind, first.prints, bind_map_left, next, map_bind]
    refine congrArg (plain >>= ·) (funext fun _ => ?_)
    rw [second.prints, List.append_assoc]

theorem log (session : Session m) (event : Log.Event) :
    Prints (session.noted.log event) (session.log event) [] () where
  gives := (id_map _).symm
  prints notes := by
    have same : session.noted.filter = session.filter := rfl
    rw [List.append_nil, Session.log, Session.log, same]
    by_cases admitted : session.filter.admits event
    · rw [if_pos admitted, if_pos admitted]
      exact (StateT.run_monadLift ..).trans (map_eq_pure_bind ..).symm
    · rw [if_neg admitted, if_neg admitted, map_pure]
      exact StateT.run_pure ..

theorem print (session : Session m) (text : String) :
    Prints (session.noted.host.print text) (session.host.print text) [text] () where
  gives := (id_map _).symm
  prints notes := by simp [Session.noted, Host.noted]

/-- **A loop over lines** prints them in order. -/
theorem lines (session : Session m) (lines : List String) :
    Prints
      (forIn lines PUnit.unit fun line _ => do
        session.noted.host.print (line ++ "\n")
        pure (.yield PUnit.unit))
      (forIn lines PUnit.unit fun line _ => do
        session.host.print (line ++ "\n")
        pure (.yield PUnit.unit))
      (lines.map (· ++ "\n")) () := by
  induction lines with
  | nil => exact .pure ()
  | cons line lines ih =>
      -- a pass of the loop is a print and then the mark to go on
      have texts : (line :: lines).map (· ++ "\n")
          = [line ++ "\n"] ++ [] ++ lines.map (· ++ "\n") := rfl
      rw [List.forIn_cons, List.forIn_cons, texts]
      exact .bind (.bind (print session (line ++ "\n")) (.pure _)) ih

/-! ## §3. Machines with a state. -/

/-- **On a machine with a state** the list changes nothing about how a run ends. -/
theorem run_eq {σ α : Type} {noted : StateT (List String) (StateM σ) α} {plain : StateM σ α}
    {texts : List String} {value : α} (program : Prints noted plain texts value) (state : σ)
    (notes : List String) :
    ∃ after, plain.run state = (value, after)
      ∧ (noted.run notes).run state = ((value, notes ++ texts), after) := by
  refine ⟨(plain.run state).2, ?_, ?_⟩
  · exact congrArg (·.run state) program.gives
  · rw [program.prints, StateT.run_map]
    rfl

end Prints

end Probe

end Horizon
