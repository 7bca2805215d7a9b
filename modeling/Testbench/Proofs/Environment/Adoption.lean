import Testbench.Proofs.Environment.Knowing
import Testbench.Proofs.Environment.Prompts
import Testbench.Proofs.Files.Growth
import Testbench.Proofs.World

/-!
# Adoption — an environment that is adopted and read back

The settings name the interpreter of an adopted environment by its path, and are read with their
variables replaced. Where that changes nothing, the interpreter that is read is the one that was
named, its environment is in use, and it stays so: the event that the settings changed and the next
look at the environment have nothing to do. A path that holds a variable may be read as another one.

- `Rests`                       : an environment is in use, named by the settings, and there;
- `Rests.settingsChanged`, `Rests.offers` : what the event and the next look do then;
- `adopted_read_back`           : after an environment was adopted;
- `not_read_back_variable`      : an environment whose name is a variable.
-/

namespace Testbench

open Testbench.Task (Ran)

/-- What a task offers while it is played, whoever else does something meanwhile. -/
theorem Task.Plays.offers {α : Type} {beside : World → World → Prop} {t : Work α} {w w' : World}
    {log : List (Ran World)} {a : α} (h : Task.Plays beside t w log a w') {n : Nat}
    (ht : t.OffersAtMost n) :
    ∃ k ≤ n, log.flatMap (·.prompts) = List.replicate k Environment.installMessage := by
  induction h generalizing n with
  | done => exact ⟨0, Nat.zero_le n, rfl⟩
  | step hstep _ ih =>
      rcases ht.step hstep with ⟨-, k, hprompts, hk, hnext⟩
      rcases ih hnext with ⟨k', hk', hrest⟩
      refine ⟨k + k', by omega, ?_⟩
      rw [List.flatMap_cons, hprompts, hrest, List.replicate_append_replicate]
  | aside _ _ _ _ ih => exact ih ht

namespace Environment

/-! ## An environment at rest -/

/-- An environment is in use, the settings name its interpreter, and the interpreter belongs to an
environment. -/
structure Rests (id : ProjectId) (v : View) (env : Path) (w : World) : Prop where
  view : view? id w = some { v with state := inside env v.state }
  named : interpreter w v.root = v.platform.envPython env
  there : isInside w v.root = true

section

variable {id : ProjectId} {v : View} {env : Path} {w w' : World} {name : String}

namespace Rests

/-- It does not matter who is told. -/
theorem withHost (h : Rests id v env w) (host : Host) : Rests id v env (w.withHost host) where
  view := h.view
  named := (interpreter_withHost w host v.root).trans h.named
  there := by
    rw [isInside, interpreter_withHost, files_withHost]
    exact h.there

/-- The event that the settings changed changes nothing. -/
theorem settingsChanged (h : Rests id v env w) (henv : env.isAbsolute = true) :
    Does v (settingsChanged id) w () w [] := by
  -- The interpreter stands two folders below its environment, which is the one in use.
  rcases twoUp_envPython v.platform henv with ⟨dir, hdir, hsame⟩
  refine Does.of_state (does_settingsChanged_same h.view ?_)
  have hagrees : agrees (some env) (twoUp (interpreter w v.root)) = true := by
    rw [h.named, hdir]
    exact hsame
  rw [Bool.and_eq_true]
  exact ⟨rfl, hagrees⟩

/-- Seeing to the environment asks at most whether to install the requirements. -/
theorem offers (h : Rests id v env w) {beside : World → World → Prop} {log : List (Ran World)}
    {answer : Except Error Unit} (hplays : Task.Plays beside (ensure id).run w log answer w') :
    ∃ k ≤ 1, log.flatMap (·.prompts) = List.replicate k installMessage := by
  -- The first act looks at the world, and nobody comes between that and what it decides.
  unfold ensure at hplays
  rcases Attempt.plays_look hplays with ⟨rest, rfl, hrest⟩
  rw [List.flatMap_cons, Act.IsPlain.world.prompts_eq_nil w, List.nil_append]
  have hinside : isInside w (w.root id) = true := by
    rw [root_eq h.view]
    exact h.there
  cases hsuppressed : w.suppressed with
  | true =>
      rw [if_pos hsuppressed] at hrest
      exact hrest.offers trivial
  | false =>
      rw [if_neg (by simp [hsuppressed]), if_pos hinside] at hrest
      exact hrest.offers (Attempt.offers_act (plain_setPhase id .inside) fun _ =>
        Attempt.offers_liftM (offers_ensureRequirements id))

end Rests

/-- Where the interpreter belongs to no environment, the first question is whether to switch. -/
theorem asks_switch (hview : view? id w = some v) (hasked : w.suppressed = false)
    (houtside : isInside w v.root = false) {beside : World → World → Prop} {log : List (Ran World)}
    {answer : Except Error Unit} (hplays : Task.Plays beside (ensure id).run w log answer w') :
    ∃ more, log.flatMap (·.prompts) = switchMessage v.root (candidates w v.root) :: more := by
  unfold ensure at hplays
  rcases Attempt.plays_look hplays with ⟨rest, rfl, hrest⟩
  rw [if_neg (by simp [hasked]), root_eq hview, houtside, if_neg Bool.false_ne_true] at hrest
  rcases Attempt.plays_bind hrest with ⟨first, second, outcome, w₁, rfl, hswitch, -⟩
  -- Both look at the world before the question, and ask nothing by that.
  unfold switch at hswitch
  rcases Attempt.plays_look hswitch with ⟨rest, rfl, hprompt⟩
  rw [root_eq hview] at hprompt
  rcases Attempt.plays_ofWork hprompt with ⟨shown, after, reply, w₂, rfl, hshown, -⟩
  rcases Task.Plays.of_act hshown with ⟨waited, rfl, -⟩
  rw [List.flatMap_cons, Act.IsPlain.world.prompts_eq_nil w, List.nil_append, List.cons_append,
    List.flatMap_cons, Act.IsPlain.world.prompts_eq_nil w, List.nil_append, List.cons_append,
    List.cons_append, List.flatMap_cons]
  exact ⟨_, rfl⟩

/-! ## Adopting an environment -/

/-- A name that is offered is that of an environment. -/
theorem isFile_of_mem_candidates (hview : view? id w = some v) (h : name ∈ candidates w v.root) :
    w.files.isFile (v.platform.activationMarker (v.root.joinText name)) = true := by
  unfold candidates at h
  split at h
  · cases h
  · rcases List.mem_filterMap.1 h with ⟨⟨entry, node⟩, -, hentry⟩
    dsimp only at hentry
    split at hentry
    · split at hentry
      · rename_i hfile
        rw [← platform_eq hview, ← Option.some.inj hentry]
        exact hfile
      · cases hentry
    · cases hentry

/-- The interpreter of an environment stands beside the file that marks it. -/
theorem isInside_of_marker {root : Path} (henv : env.isAbsolute = true) (p : Platform)
    (hnamed : interpreter w root = p.envPython env)
    (hmarker : w.files.isFile (p.activationMarker env) = true) : isInside w root = true := by
  have hparent : (p.envPython env).parent? = some (env.joinText p.binDir) :=
    Path.parent?_joinText henv (isName_binDir p) (isName_pythonName p)
  rw [Platform.activationMarker] at hmarker
  rw [isInside, hnamed, hparent, Option.any_some, isEnvBin, hmarker]

theorem rests_adopted (hview : view? id w = some v) (hroot : v.root.isAbsolute = true)
    (hname : name ∈ candidates w v.root)
    (hnamed : (naming w v (v.root.joinText name)).1 = .ok ())
    (hplain : ¬IsRespelled v (v.root.joinText name)) :
    Rests id v (v.root.joinText name)
      (({ w with files := (naming w v (v.root.joinText name)).2 } : World).updateEnv id
        (inside (v.root.joinText name))) := by
  have henv : (v.root.joinText name).isAbsolute = true := Path.isAbsolute_join hroot _
  have hread := interpreter_naming id henv hnamed (inside (v.root.joinText name))
  rw [not_not.1 hplain] at hread
  refine ⟨view?_changed hview _ _, hread, isInside_of_marker henv v.platform hread ?_⟩
  -- The marker was there, and the settings were written elsewhere or over it.
  simp only [World.updateEnv, World.updateProject, naming]
  exact Settings.isFile_set (isFile_of_mem_candidates hview hname) v.root _ _

/-- Where adopting succeeds the interpreter was named, and the environment is in use. -/
theorem adopt_ok (hview : view? id w = some v) (hok : ((adopt id name).run w).1 = .ok ()) :
    (naming w v (v.root.joinText name)).1 = .ok () ∧
      ∃ host, ((adopt id name).run w).2 =
        (({ w with files := (naming w v (v.root.joinText name)).2 } : World).updateEnv id
          (inside (v.root.joinText name))).withHost host := by
  cases hnamed : (naming w v (v.root.joinText name)).1 with
  | error cause =>
      rw [(does_adopt_error hview hnamed).answer] at hok
      cases hok
  | ok u =>
      rcases (does_adopt_ok hview hnamed).run_eq with ⟨host, hrun⟩
      exact ⟨rfl, host, by rw [hrun]⟩

theorem view?_adopted (hview : view? id w = some v) (hok : ((adopt id name).run w).1 = .ok ()) :
    view? id ((adopt id name).run w).2 =
      some { v with state := inside (v.root.joinText name) v.state } := by
  rcases adopt_ok hview hok with ⟨-, host, hafter⟩
  rw [hafter, view?_withHost]
  exact view?_changed hview _ _

/-- After an environment of the project was adopted, the interpreter that is read is the one that
was named, with the variables of its path replaced. If that leaves the path alone, which it does
unless it holds one, the environment is in use and the interpreter belongs to one; and as long as
this is so, the event that the settings changed sends and changes nothing, and seeing to the
environment offers neither to switch nor to make one: it asks at most once, whether to install the
requirements. -/
theorem adopted_read_back (hview : view? id w = some v) (hroot : v.root.isAbsolute = true)
    (hname : name ∈ candidates w v.root) (hok : ((adopt id name).run w).1 = .ok ()) :
    interpreter ((adopt id name).run w).2 v.root =
        ⟨Settings.expand v.root (v.platform.envPython (v.root.joinText name)).text⟩ ∧
      (¬Settings.HasVariable (v.platform.envPython (v.root.joinText name)).text.toList →
        ¬IsRespelled v (v.root.joinText name)) ∧
      (¬IsRespelled v (v.root.joinText name) →
        Rests id v (v.root.joinText name) ((adopt id name).run w).2) ∧
      ∀ w₁, Rests id v (v.root.joinText name) w₁ →
        Does v (settingsChanged id) w₁ () w₁ [] ∧
          Rests id v (v.root.joinText name) ((settingsChanged id).run w₁).2 ∧
          ∀ beside log answer w₂, Task.Plays beside (ensure id).run w₁ log answer w₂ →
            ∃ k ≤ 1, log.flatMap (·.prompts) = List.replicate k installMessage := by
  have henv : (v.root.joinText name).isAbsolute = true := Path.isAbsolute_join hroot _
  rcases adopt_ok hview hok with ⟨hnamed, host, hafter⟩
  refine ⟨?_, fun hplain => ?_, fun hplain => ?_, fun w₁ hrests => ⟨?_, ?_, ?_⟩⟩
  · rw [hafter, interpreter_withHost]
    exact interpreter_naming id henv hnamed _
  · exact not_not.2 (Settings.expand_eq_self v.root hplain)
  · rw [hafter]
    exact (rests_adopted hview hroot hname hnamed hplain).withHost host
  · exact hrests.settingsChanged henv
  · rcases (hrests.settingsChanged henv).run_eq with ⟨host₁, hfollowed⟩
    rw [hfollowed]
    exact hrests.withHost host₁
  · exact fun _ _ _ _ hplays => hrests.offers hplays

end

/-! ### Names that are variables, and names that are not -/

namespace Adoption

open Switching (furnished adopted)

/-- The environment is adopted, the settings have changed, and it is seen to. -/
theorem adopted_read_back_furnished : "a" ∈ candidates furnished ⟨"/p"⟩ ∧
    interpreter adopted ⟨"/p"⟩ = ⟨"/p/a/bin/python"⟩ ∧ isInside adopted ⟨"/p"⟩ = true ∧
    Does ⟨⟨"/p"⟩, .unix, .initial⟩ (settingsChanged 0) adopted () adopted [] ∧
    ∃ log answer w, Task.Plays (fun _ _ => True) (ensure 0).run ((settingsChanged 0).run adopted).2
        log answer w ∧
      ∃ k ≤ 1, log.flatMap (·.prompts) = List.replicate k installMessage := by
  have hoffered : "a" ∈ candidates furnished ⟨"/p"⟩ := by decide +kernel
  have hread := adopted_read_back
    (show view? 0 furnished = some ⟨⟨"/p"⟩, .unix, .initial⟩ from rfl) (by decide) hoffered
    (by decide +kernel)
  rcases hread with ⟨-, -, hrests, hquiet⟩
  have hadopted := hrests (not_isRespelled (by decide))
  rcases hquiet _ hadopted with ⟨hsettings, hafter, -⟩
  rcases Task.exists_plays (fun _ _ => True) (ensure 0).run ((settingsChanged 0).run adopted).2 with
    ⟨log, answer, w, hplays⟩
  exact ⟨hoffered, hadopted.named.trans (by decide), hadopted.there, hsettings, log, answer, w,
    hplays, (hquiet _ hafter).2.2 _ _ _ _ hplays⟩

/-- A project with an environment that is named like a variable. -/
def labelled : World :=
  { furnished with
    files :=
      ⟨⟨"/"⟩, 0, [(["p"], .dir), (["p", "$\x7bx\x7d"], .dir), (["p", "$\x7bx\x7d", "bin"], .dir),
        (["p", "$\x7bx\x7d", "bin", Platform.markerName], .file ⟨⟨#[]⟩, false, false, 0⟩)]⟩ }

def labelledAdopted : World := ((adopt 0 "$\x7bx\x7d").run labelled).2

def labelledFollowed : World := ((settingsChanged 0).run labelledAdopted).2

/-- The environment is adopted, and another interpreter is read: it does not count as one of an
environment, the event leaves the environment, and the next look offers to switch. -/
theorem not_read_back_variable : "$\x7bx\x7d" ∈ candidates labelled ⟨"/p"⟩ ∧
    ((adopt 0 "$\x7bx\x7d").run labelled).1 = .ok () ∧
    interpreter labelledAdopted ⟨"/p"⟩ = ⟨"/p//p/bin/python"⟩ ∧
    isInside labelledAdopted ⟨"/p"⟩ = false ∧
    (labelledFollowed.project 0).env.env = none ∧
    (labelledFollowed.project 0).env.phase = .outside ∧
    labelledFollowed.host.recorded.map (·.lines) =
      [[TerminalLine.activate .unix ⟨"/p/$\x7bx\x7d"⟩, TerminalLine.deactivate,
        TerminalLine.prependPath .unix ⟨"/p//p/bin"⟩]] ∧
    ∀ beside log answer w, Task.Plays beside (ensure 0).run labelledAdopted log answer w →
      ∃ names, switchMessage ⟨"/p"⟩ names ∈ log.flatMap (·.prompts) := by
  have hok : ((adopt 0 "$\x7bx\x7d").run labelled).1 = .ok () := by decide +kernel
  have houtside : isInside labelledAdopted ⟨"/p"⟩ = false := by decide +kernel
  have hview := view?_adopted
    (show view? 0 labelled = some ⟨⟨"/p"⟩, .unix, .initial⟩ from rfl) hok
  refine ⟨by decide +kernel, hok, by decide +kernel, houtside, by decide +kernel, by decide +kernel,
    by decide +kernel, fun _ _ _ _ hplays => ?_⟩
  rcases asks_switch hview (by decide +kernel) houtside hplays with ⟨more, hprompts⟩
  exact ⟨_, hprompts ▸ List.mem_cons_self⟩

end Adoption

end Environment
end Testbench
