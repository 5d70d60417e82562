import LoadDispatch.Proofs.ScriptRewrite
import LoadDispatch.Proofs.Refusals
import LoadDispatch.Wire.Run

/-!
A stored execution's thread configuration and its script agree: a creation and a thread update write
the configuration, the original one and the rewritten script together, and no other request touches
them.
-/
namespace LoadDispatch

namespace Decoder

variable {α : Type} {j : Json} {key : String}

theorem natBelow_lt {bound n : Nat} (h : natBelow bound j = .ok n) : n < bound := by
  unfold natBelow at h
  split at h
  · split at h
    · cases h
      assumption
    · cases h
  · cases h

theorem field_ok {d : Decoder α} {a : α} (h : field j key d = .ok a) : ∃ v, d v = .ok a := by
  unfold field at h
  split at h
  · exact ⟨_, mapError_ok h⟩
  · cases h

theorem fieldOr_ok {d : Decoder α} {dflt a : α} (h : fieldOr j key d dflt = .ok a) :
    a = dflt ∨ ∃ v, d v = .ok a := by
  unfold fieldOr at h
  split at h
  · exact .inr ⟨_, mapError_ok h⟩
  · cases h
    exact .inl rfl

theorem fieldOpt_ok {d : Decoder α} {a : Option α} (h : fieldOpt j key d = .ok a) :
    ∀ x ∈ a, ∃ v, d v = .ok x := by
  intro x hx
  rcases fieldOr_ok h with rfl | ⟨v, hv⟩
  · cases hx
  · -- `null` reads as absent, anything else through `d`
    unfold nullable at hv
    split at hv
    · cases hv
      cases hx
    · cases hd : d v with
      | error e =>
        rw [hd] at hv
        cases hv
      | ok b =>
        rw [hd] at hv
        cases hv
        cases hx
        exact ⟨v, hd⟩

theorem u32_le {v : Json} {n : Nat} (h : u32 v = .ok n) : n ≤ Number.maxU64 := by
  have hlt := natBelow_lt h
  have hwide : Nat.pow 2 32 < Nat.pow 2 64 := Nat.pow_lt_pow_right (by decide) (by decide)
  unfold Number.maxU64
  omega

theorem u64_le {v : Json} {n : Nat} (h : u64 v = .ok n) : n ≤ Number.maxU64 := by
  have hlt := natBelow_lt h
  unfold Number.maxU64
  omega

end Decoder

theorem RampConfig.decode_fits {j : Json} {r : RampConfig} (h : RampConfig.decode j = .ok r) :
    r.rampUpThreads ≤ Number.maxU64 ∧ r.rampDownThreads ≤ Number.maxU64 ∧
      r.rampUpSecs ≤ Number.maxU64 ∧ r.rampDownSecs ≤ Number.maxU64 := by
  unfold RampConfig.decode at h
  obtain ⟨j, -, h⟩ := Json.bind_eq_ok.mp h
  obtain ⟨up, hup, h⟩ := Json.bind_eq_ok.mp h
  obtain ⟨down, hdown, h⟩ := Json.bind_eq_ok.mp h
  obtain ⟨upSecs, hupSecs, h⟩ := Json.bind_eq_ok.mp h
  obtain ⟨downSecs, hdownSecs, h⟩ := Json.bind_eq_ok.mp h
  cases h
  have hsecs {secs : Nat} {key : String} (hs : Decoder.fieldOr j key Decoder.u64 0 = .ok secs) :
      secs ≤ Number.maxU64 := by
    rcases Decoder.fieldOr_ok hs with rfl | ⟨_, hv⟩
    · exact Nat.zero_le _
    · exact Decoder.u64_le hv
  obtain ⟨_, hup⟩ := Decoder.field_ok hup
  obtain ⟨_, hdown⟩ := Decoder.field_ok hdown
  exact ⟨Decoder.u32_le hup, Decoder.u32_le hdown, hsecs hupSecs, hsecs hdownSecs⟩

/-- The decoders read a thread configuration whose values fit 64 bits. -/
theorem ThreadConfig.decode_fits {j : Json} {t : ThreadConfig}
    (h : ThreadConfig.decode j = .ok t) : t.Fits := by
  unfold ThreadConfig.decode at h
  obtain ⟨j, -, h⟩ := Json.bind_eq_ok.mp h
  obtain ⟨threads, hthreads, h⟩ := Json.bind_eq_ok.mp h
  obtain ⟨iterations, hiterations, h⟩ := Json.bind_eq_ok.mp h
  obtain ⟨ramp, hramp, h⟩ := Json.bind_eq_ok.mp h
  obtain ⟨duration, hduration, h⟩ := Json.bind_eq_ok.mp h
  cases h
  obtain ⟨_, hthreads⟩ := Decoder.field_ok hthreads
  obtain ⟨_, hiterations⟩ := Decoder.field_ok hiterations
  refine (ThreadConfig.fits_iff _).mpr
    ⟨Decoder.u32_le hthreads, Decoder.u32_le hiterations, fun r hr => ?_, fun d hd => ?_⟩
  · obtain ⟨_, hr⟩ := Decoder.fieldOpt_ok hramp r hr
    exact RampConfig.decode_fits hr
  · obtain ⟨_, hd⟩ := Decoder.fieldOpt_ok hduration d hd
    exact Decoder.u64_le hd

namespace ExecutionRow

/-- A row's thread configuration agrees with its script: the original configuration is the
current one, and a script that reads as an object holds the configuration. -/
def ThreadsAgree (r : ExecutionRow) : Prop :=
  r.originalThreads = some r.threads ∧
    ∀ doc, Json.parse r.script = .ok (.obj doc) → r.threads.WrittenIn doc

end ExecutionRow

namespace Database

/-- Every row's thread configuration agrees with its script. -/
def ThreadsAgree (db : Database) : Prop := ∀ r ∈ db.executions, r.ThreadsAgree

section Agreement

variable {db : Database} (h : db.ThreadsAgree)
include h

theorem ThreadsAgree.edit {db' : Database} {x : Int} {f : ExecutionRow → ExecutionRow}
    (hrows : db'.executions = (db.modifyRow x f).executions)
    (hf : ∀ r, r.ThreadsAgree → (f r).ThreadsAgree) : db'.ThreadsAgree := by
  intro r' hr'
  rw [hrows, mem_modifyRow] at hr'
  obtain ⟨r, hr, rfl⟩ := hr'
  split
  · exact hf r (h r hr)
  · exact h r hr

theorem ThreadsAgree.of_same {db' : Database} (hrows : db'.executions = db.executions) :
    db'.ThreadsAgree :=
  fun r hr => h r (hrows ▸ hr)

theorem ThreadsAgree.create {db' : Database} {new : NewExecution} {id : Int}
    (hfit : new.threads.Fits) (hc : db.create new = .ok (id, db')) : db'.ThreadsAgree := by
  unfold Database.create at hc
  split at hc
  · cases hc
  · cases hc
    intro r hr
    rcases List.mem_append.mp hr with hr | hr
    · exact h r hr
    rw [List.mem_singleton] at hr
    subst hr
    refine ⟨rfl, fun doc hdoc => ?_⟩
    dsimp only at hdoc
    split at hdoc
    next hrewrite => exact applyThreads_writtenIn hfit hrewrite hdoc
    next hrefused => exact absurd hdoc (parse_ne_obj_of_applyThreads hrefused doc)

theorem ThreadsAgree.updateThreads {db' : Database} {id : Int} {t : ThreadConfig}
    (hfit : t.Fits) (hu : db.updateThreads id t = .ok db') : db'.ThreadsAgree := by
  unfold Database.updateThreads at hu
  split at hu
  · cases hu
  · split at hu
    · cases hu
    · rename_i hscript
      cases hu
      -- the configuration, the original one and the rewritten script are written together
      exact h.edit rfl fun _ _ => ⟨rfl, fun _ hdoc => applyThreads_writtenIn hfit hscript hdoc⟩

theorem ThreadsAgree.softDelete (id now : Int) : (db.softDelete id now).ThreadsAgree :=
  h.edit rfl fun _ hr => by split <;> exact hr

end Agreement

end Database

namespace Orchestrator

open Database

theorem start_threadsAgree (ctx : RequestContext) (req : StartRequest) {s : Site}
    (h : s.db.ThreadsAgree) : ((start ctx req).run.run s).2.db.ThreadsAgree := by
  rcases start_effect ctx req s with ⟨hrows, -⟩ | ⟨exec, -, -, hleaves⟩
  · exact h.of_same hrows
  rcases hleaves with ⟨f, hrows, -⟩ | ⟨f, hrows, -⟩ | ⟨os, -, hrows, -⟩
  · exact h.edit hrows fun _ hr => hr
  · exact h.edit (hrows.trans (executions_modifyRow_modifyRow _ _ _ fun _ => rfl)) fun _ hr => hr
  · exact h.edit (hrows.trans (executions_modifyRow_modifyRow _ _ _ fun _ => rfl)) fun _ hr => hr

theorem stop_threadsAgree (ctx : RequestContext) (req : StopRequest) {s : Site}
    (h : s.db.ThreadsAgree) : ((stop ctx req).run.run s).2.db.ThreadsAgree := by
  rcases stop_effect ctx req s with ⟨hrows, -⟩ | ⟨exec, hb, hexec, hmay, hfree⟩
  · exact h.of_same hrows
  rw [run_stop_primary ctx req s exec hb hexec hmay hfree]
  exact h.edit rfl fun r hr => by split_ifs <;> exact hr

theorem complete_threadsAgree (ctx : RequestContext) (id : Int) (report : CompletionReport)
    {s : Site} (h : s.db.ThreadsAgree) : ((complete ctx id report).run.run s).2.db.ThreadsAgree := by
  rcases complete_effect ctx id report s with ⟨hrows, -⟩ | ⟨-, -, -, hrows, -⟩
  · exact h.of_same hrows
  · exact h.edit hrows fun _ hr => hr

theorem delete_threadsAgree (ctx : RequestContext) (ids : List Int) {s : Site}
    (h : s.db.ThreadsAgree) : ((delete ctx ids).run s).2.db.ThreadsAgree :=
  delete_preserves Database.ThreadsAgree (fun _ ctx _ hs => stop_threadsAgree ctx _ hs)
    (fun _ id now hdb => hdb.softDelete id now) ctx ids _ h

end Orchestrator

namespace Request

/-- The thread configurations a request carries fit 64 bits. -/
def ThreadsFit : Request → Prop
  | .create new => new.threads.Fits
  | .updateThreads _ t => t.Fits
  | _ => True

theorem serve_threadsAgree (req : Request) (hfit : req.ThreadsFit) {s : Site}
    (h : s.db.ThreadsAgree) : (req.serve s).ThreadsAgree := by
  cases req with
  | create new =>
    dsimp only [Request.serve]
    split
    · exact h.create hfit ‹_›
    · exact h
  | updateThreads id t =>
    dsimp only [Request.serve]
    split
    · exact h.updateThreads hfit ‹_›
    · exact h
  | start ctx req => exact Orchestrator.start_threadsAgree ctx req h
  | stop ctx req => exact Orchestrator.stop_threadsAgree ctx req h
  | complete ctx id report => exact Orchestrator.complete_threadsAgree ctx id report h
  | delete ctx ids => exact Orchestrator.delete_threadsAgree ctx ids h

end Request

/-- From a store with no executions, requests whose thread configurations fit 64 bits leave every
row with its original configuration equal to its current one and, whenever its script reads as an
object, the configuration in its `thread_group`. A thread update whose script the rewrite refuses
fails with the rewrite's message and changes nothing. -/
theorem scripts_hold_their_threads (db : Database) (visits : List Visit)
    (hrows : db.executions = []) (hfit : ∀ v ∈ visits, v.request.ThreadsFit) :
    (∀ r ∈ (serveAll db visits).executions, r.originalThreads = some r.threads ∧
      ∀ doc, Json.parse r.script = .ok (.obj doc) → r.threads.WrittenIn doc) ∧
    ∀ (s : Site) (id : Int) (t : ThreadConfig) (r : ExecutionRow) (e : ScriptError),
      s.db.row? id = some r → applyThreads r.script t = .error e →
        s.db.updateThreads id t = .error e.message ∧ (Request.updateThreads id t).serve s = s.db := by
  have hempty : db.ThreadsAgree := by
    intro r hr
    rw [hrows] at hr
    cases hr
  refine ⟨serveAll_induction (fun v => v.request.ThreadsFit) ?_ visits db hfit hempty, ?_⟩
  · intro v _ hv hdb
    exact v.request.serve_threadsAgree hv hdb
  · intro s id t r e hr he
    have hfail := Database.updateThreads_unrewritable hr he
    refine ⟨hfail, ?_⟩
    simp only [Request.serve, hfail]

/-- An execution created with a ramp and a duration into a script that already names a thread
count, started, then given a plain configuration. -/
def rampThenPlain : List Visit :=
  let visit (r : Request) : Visit := ⟨r, acceptingInstance, 1750000000000, .unreachable⟩
  [visit (.create { tenantOneExecution with
      script := "\x7b\"thread_group\":[1,2],\"thread_group\":\x7b\"thread_count\":1\x7d\x7d",
      threads := { threadCount := 4, iterationCount := 10, durationSecs := some 60,
                   ramp := some { rampUpThreads := 2, rampDownThreads := 1, rampUpSecs := 5 } } }),
   visit (.start .system { executionId := 1 }),
   visit (.updateThreads 1 { threadCount := 8, iterationCount := 20 })]

theorem rampThenPlain_scripts_hold_their_threads :
    (∀ v ∈ rampThenPlain, v.request.ThreadsFit) ∧
    (∀ r ∈ (serveAll {} rampThenPlain).executions, r.originalThreads = some r.threads ∧
      ∀ doc, Json.parse r.script = .ok (.obj doc) → r.threads.WrittenIn doc) ∧
    ∀ (s : Site) (id : Int) (t : ThreadConfig) (r : ExecutionRow) (e : ScriptError),
      s.db.row? id = some r → applyThreads r.script t = .error e →
        s.db.updateThreads id t = .error e.message ∧ (Request.updateThreads id t).serve s = s.db :=
  have hfit : ∀ v ∈ rampThenPlain, v.request.ThreadsFit := by
    simp [rampThenPlain, Request.ThreadsFit, ThreadConfig.fits_iff, Number.maxU64]
  ⟨hfit, scripts_hold_their_threads {} rampThenPlain rfl hfit⟩

end LoadDispatch
