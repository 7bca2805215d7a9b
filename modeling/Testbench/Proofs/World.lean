import Testbench.Proofs.Task.Plays
import Testbench.World

/-!
# World — acts that leave a part of the world alone, and attempts part by part

- `Act.Keeps`  : an act leaves what is read off the world as it was;
- `Keeps.bind` : one act after another;
- `Attempt.plays_first`, `plays_bind` : what was played of an attempt falls into its parts.
-/

namespace Testbench
namespace Act

/-- What is read off the world is the same after an act. -/
def Keeps {τ : Type} (read : World → τ) {α : Type} (m : Act α) : Prop :=
  ∀ w, read (m.run w).2 = read w

namespace Keeps

variable {τ : Type} {read : World → τ} {α β : Type}

theorem pure (a : α) : Keeps read (Pure.pure a : Act α) := fun _ => rfl

theorem bind {m : Act α} {f : α → Act β} (hm : Keeps read m) (hf : ∀ a, Keeps read (f a)) :
    Keeps read (m >>= f) :=
  fun w => (hf _ _).trans (hm w)

theorem world : Keeps read Act.world := fun _ => rfl

theorem change {f : World → World} (h : ∀ w, read (f w) = read w) :
    Keeps read (modify f : Act Unit) := h

theorem tell {message : Host → Host}
    (h : ∀ w : World, read { w with host := message w.host } = read w) :
    Keeps read (Act.tell message) := h

theorem ask {question : Host → α × Host}
    (h : ∀ w : World, read { w with host := (question w.host).2 } = read w) :
    Keeps read (Act.ask question) := h

theorem onFiles {change : FileTree → α × FileTree}
    (h : ∀ (w : World) files, read { w with files := files } = read w) :
    Keeps read (Act.onFiles change) := fun w => h w _

end Keeps
end Act

namespace Attempt

open Testbench.Task (Goes Plays Ran)

variable {others : World → World → Prop} {α β : Type} {w w' : World} {log : List (Ran World)}

/-- Nobody comes between an act and what follows. -/
theorem plays_first {m : Act α} {f : α → Attempt β} {r : Except Error β}
    (h : Plays others ((liftM m : Attempt α) >>= f).run w log r w') :
    ∃ rest, log = ⟨w, α, m.run⟩ :: rest ∧
      Plays others (f (m.run w).1).run (m.run w).2 rest r w' :=
  Plays.of_act h

theorem plays_look {f : World → Attempt β} {r : Except Error β}
    (h : Plays others ((liftM Act.world : Attempt World) >>= f).run w log r w') :
    ∃ rest, log = ⟨w, World, Act.world.run⟩ :: rest ∧ Plays others (f w).run w rest r w' :=
  plays_first h

/-- The first step of an attempt that looks at the world. -/
theorem goes_look {f : World → Attempt β} {ready : Wait → World → Bool} {x : Ran World}
    {t : Work (Except Error β)} (h : Goes ready ((liftM Act.world : Attempt World) >>= f).run x t) :
    ∃ w, x = ⟨w, World, Act.world.run⟩ ∧ t = (f w).run := by
  have hlift : Goes ready ((Task.lift Act.world : Work World).bind fun w => (f w).run) x t := h
  exact hlift.of_lift

theorem poll_look {f : World → Attempt β} {ready : Wait → World → Bool} :
    ((liftM Act.world : Attempt World) >>= f).run.poll ready w = (f w).run.poll ready w := rfl

/-- An attempt that fails is the end of what was to follow. -/
theorem plays_bind {x : Attempt α} {f : α → Attempt β} {r : Except Error β}
    (h : Plays others (x >>= f).run w log r w') :
    ∃ first second o w₁, log = first ++ second ∧ Plays others x.run w first o w₁ ∧
      match o with
      | .ok a => Plays others (f a).run w₁ second r w'
      | .error cause => second = [] ∧ r = .error cause ∧ w' = w₁ := by
  obtain ⟨first, o, w₁, second, rfl, hfirst, hsecond⟩ := Plays.bind (t := x.run) h
  refine ⟨first, second, o, w₁, rfl, hfirst, ?_⟩
  cases o with
  | ok a => exact hsecond
  | error cause => exact Plays.of_done hsecond

theorem plays_ofWork {work : Work α} {f : α → Attempt β} {r : Except Error β}
    (h : Plays others (Attempt.ofWork work >>= f).run w log r w') :
    ∃ first second a w₁, log = first ++ second ∧ Plays others work w first a w₁ ∧
      Plays others (f a).run w₁ second r w' := by
  obtain ⟨first, second, o, w₁, rfl, hfirst, hsecond⟩ := plays_bind h
  obtain ⟨inner, a, w₂, last, rfl, hinner, hlast⟩ := Plays.bind (t := work) hfirst
  obtain ⟨rfl, rfl, rfl⟩ := Plays.of_done hlast
  exact ⟨inner, second, a, w₁, by rw [List.append_nil], hinner, hsecond⟩

/-- An attempt that is one act, with a constant answer if it succeeds. -/
theorem plays_ofAct {m : Act (Except Error α)} {b : β} {r : Except Error β}
    (h : Plays others (Attempt.ofAct m >>= fun _ => pure b).run w log r w') :
    log = [⟨w, Except Error α, m.run⟩] ∧ r = (m.run w).1.map (fun _ => b) ∧ w' = (m.run w).2 := by
  obtain ⟨first, second, o, w₁, rfl, hfirst, hsecond⟩ := plays_bind h
  obtain ⟨_, rfl, hdone⟩ := Plays.of_act hfirst
  obtain ⟨rfl, ho, rfl⟩ := Plays.of_done hdone
  rw [← ho]
  cases o with
  | ok a =>
      obtain ⟨rfl, rfl, rfl⟩ := Plays.of_done hsecond
      exact ⟨rfl, rfl, rfl⟩
  | error cause =>
      obtain ⟨rfl, rfl, rfl⟩ := hsecond
      exact ⟨rfl, rfl, rfl⟩

end Attempt
end Testbench
