import Mathlib
import DocEnum.Manifest
import DocEnum.Yaml.Reader
import DocEnum.Proofs.Job.Confinement

/-!
# Batches

What a manifest does to the files around it, over a run of any length.

**Loading** (`Describes`). A manifest is loaded only if every item of its list is a job, and loading
changes nothing. So a manifest with one bad item, wherever it stands, does nothing at all.

**Turns** (`Batch`). Each job runs in the surroundings that the one before it left. A turn puts
bytes at one location or at none (`content?_turn`): those of its source at its target, or nothing
where a source without bytes should have gone (`Turn.Puts`). A job that may not overwrite puts them
where no file was before (`content?_before_target`).

**Last bytes** (`LastPut`). So, after any number of turns, a location holds what was put there last
(`content?_batch`). Where no job may overwrite, nothing is put where a file stands
(`content?_of_keep_turn`), and so no two turns have the same target.

Main result: `run_last_write`.
-/

namespace DocEnum

open File File.Store World

variable {w w' : World}

/-! ## Contents -/

/-- The bytes of the file at a location, if a file stands there. -/
def File.Store.content? (s : Store) (l : Location) : Option (List UInt8) :=
  match s.get? l with
  | some (.file content) => some content
  | _ => none

theorem File.Store.content?_eq_some_iff {s : Store} {l : Location} {content : List UInt8} :
    s.content? l = some content ↔ s.get? l = some (.file content) := by
  unfold content?
  rcases s.get? l with _ | _ | _ <;> simp

theorem File.Store.Opens.content?_eq {s s' : Store} {path : Path} (h : s.Opens path s')
    (l : Location) : s'.content? l = s.content? l := by
  refine Option.ext fun content => ?_
  rw [content?_eq_some_iff, content?_eq_some_iff, h.file_iff]

/-- The source that a job asks for in some surroundings, if it can be generated. -/
def Job.source? (job : Job) (w : World) : Option Text :=
  (job.request? w).bind fun request => (Java.generate job.style request).toOption

theorem Job.source?_of_request {job : Job} {request : Java.Request} {source : Text}
    (hrequest : job.request? w = some request)
    (hsource : Java.generate job.style request = .ok source) : job.source? w = some source := by
  simp [Job.source?, hrequest, hsource, Except.toOption]

/-- A location gets bytes; where nothing may be overwritten, it held no file before. -/
structure File.Store.Gets (s : Store) (overwrite : Bool) (target : Location)
    (bytes : List UInt8) (s' : Store) : Prop where
  free : overwrite = false → s.content? target = none
  content? : ∀ l, s'.content? l = if l = target then some bytes else s.content? l

theorem World.Placed.gets {s s₁ s' : Store} {directory : Path} {d : Location} {name : Text}
    {overwrite : Bool} {bytes : List UInt8}
    (h : Placed s s₁ directory d name overwrite bytes s') :
    s.Gets overwrite (d ++ [Utf8.bytes name]) bytes s' where
  free := by
    intro hkeep
    rcases h.free with hnone | ⟨hover, -⟩
    · rw [← h.opens.content?_eq]
      simp [Store.content?, hnone]
    · rw [hkeep] at hover
      cases hover
  content? := by
    intro l
    rw [← h.opens.content?_eq]
    unfold Store.content?
    rw [h.get?]
    by_cases hl : l = d ++ [Utf8.bytes name]
    · rw [if_pos hl, if_pos hl]
    · rw [if_neg hl, if_neg hl]

theorem Job.Ran.keeps {job : Job} {s' : Store} {result : Result} (h : job.Ran w s' result) :
    w.store.Keeps s' := by
  cases h with
  | written _ _ _ hplaced => exact hplaced.opens.keeps.trans hplaced.keeps
  | spoiled _ _ _ hplaced => exact hplaced.opens.keeps.trans hplaced.keeps
  | warned hopens => exact hopens.keeps

namespace Manifest

/-! ## Loading -/

variable {path : Path} {jobs : List Job}

/-- An item of a manifest's list describes a job. -/
def Describes (path : Path) (item : Option Payload) (job : Job) : Prop :=
  ∃ payload, item = some payload ∧ Job.ofPayload path.parent payload = .ok job

/-- Working through a list succeeds if every item does. -/
theorem mapM_eq_ok_iff {α β ε : Type} {f : α → Except ε β} {R : α → β → Prop}
    (hf : ∀ a b, f a = .ok b ↔ R a b) {as : List α} {bs : List β} :
    as.mapM f = .ok bs ↔ List.Forall₂ R as bs := by
  induction as generalizing bs with
  | nil => simp [pure, Except.pure, eq_comm]
  | cons a as ih =>
    rw [List.mapM_cons, List.forall₂_cons_left_iff]
    cases ha : f a with
    | error e => simp [bind, Except.bind, ← hf, ha]
    | ok b =>
      cases has : as.mapM f with
      | error e => simp [bind, Except.bind, ← hf, ha, ← ih, has]
      | ok bs' => simp [bind, Except.bind, pure, Except.pure, ← hf, ha, ← ih, has, eq_comm]

/-- **A manifest is loaded** only if every item of its list describes a job. -/
theorem jobsOf_eq_ok_iff [YamlLibrary] {text : Text} :
    jobsOf path text = .ok jobs ↔
      ∃ items, payloads path text = .ok items ∧ List.Forall₂ (Describes path) items jobs := by
  unfold jobsOf
  cases payloads path text with
  | error e => simp [bind, Except.bind]
  | ok items =>
    simp only [bind, Except.bind, Except.ok.injEq, exists_eq_left']
    refine mapM_eq_ok_iff fun item job => ?_
    cases item <;> simp [Describes, throw, throwThe, MonadExceptOf.throw]

theorem perform_load [YamlLibrary] (w : World) (path : Path) :
    w.perform (load path) =
      ((w.perform (Workspace.readText path)).1.bind (jobsOf path), w) := by
  unfold load
  rw [perform_bind, perform_readText]
  rcases w.store.read path with fault | bytes
  · rfl
  · simp only
    cases Workspace.text bytes <;> rfl

/-- A list of mappings in JSON is loaded if every one of them describes a job. -/
theorem load_json [YamlLibrary] {text : Text} {items : List (List (Value × Value))}
    (hyaml : isYaml path = false)
    (htext : (w.perform (Workspace.readText path)).1 = .ok text)
    (hjson : Json.read text = .ok (.list (items.map Value.mapping)))
    (hjobs : List.Forall₂ (fun pairs job =>
      Job.ofPayload path.parent (Payload.ofPairs pairs) = .ok job) items jobs) :
    (w.perform (load path)).1 = .ok jobs := by
  have hitems : payloads path text = .ok (items.map fun pairs => some (Payload.ofPairs pairs)) := by
    have hvalues : (items.map Value.mapping).map Payload.ofValue? =
        items.map fun pairs => some (Payload.ofPairs pairs) := by
      rw [List.map_map]
      rfl
    unfold payloads
    rw [hyaml, hjson, ← hvalues]
    rfl
  have hdescribes : List.Forall₂ (Describes path)
      (items.map fun pairs => some (Payload.ofPairs pairs)) jobs :=
    List.forall₂_map_left_iff.2 (hjobs.imp fun pairs job h => ⟨_, rfl, h⟩)
  rw [perform_load, htext]
  exact jobsOf_eq_ok_iff.2 ⟨_, hitems, hdescribes⟩

theorem perform_run [YamlLibrary] (w : World) (path : Path) :
    w.perform (run path) =
      match (w.perform (load path)).1 with
      | .error e => (.error e, w)
      | .ok jobs =>
        match w.perform (runAll jobs) with
        | (.error e, w') => (.error e, w')
        | (.ok results, w') => (.ok ⟨path, results⟩, w') := by
  unfold run
  rw [perform_bind, perform_load]
  cases (w.perform (Workspace.readText path)).1.bind (jobsOf path) with
  | error e => rfl
  | ok jobs =>
    simp only
    rw [perform_bind]
    rcases w.perform (runAll jobs) with ⟨outcome, w'⟩
    cases outcome <;> rfl

/-! ## Turns -/

/-- One job in a batch, with the surroundings it finds and those it leaves. -/
structure Turn where
  job : Job
  before : World
  result : Result
  after : World

/-- The location of the file that a job wrote, if it wrote one. -/
def Turn.target? (turn : Turn) : Option Location :=
  turn.result.file?.bind fun file => (turn.after.store.resolve file).toOption

/-- The source that a job asks for when its turn comes. -/
def Turn.source? (turn : Turn) : Option Text :=
  turn.job.source? turn.before

/-- The job's run in these surroundings gives the result. -/
def Turn.Runs (turn : Turn) : Prop :=
  turn.before.perform turn.job.run = (.ok turn.result, turn.after)

/-- What a job puts at a location: the bytes of its source where it tells of a file, or nothing in
the file for a source without bytes. -/
inductive Turn.Puts (turn : Turn) (l : Location) : List UInt8 → Prop
  | written {source : Text} {bytes : List UInt8} (htarget : turn.target? = some l)
      (hsource : turn.source? = some source) (hbytes : Utf8.encode source = .ok bytes) :
      Puts turn l bytes
  | spoiled {request : Java.Request} {source : Text} {fault : Utf8.EncodeFault}
      (hrequest : turn.job.request? turn.before = some request)
      (hsource : turn.source? = some source) (hfault : Utf8.encode source = .error fault)
      (hresult : turn.result.outcome = .warned (.invalidRequest fault.message))
      (hresolve : turn.after.store.resolve
        (child turn.job.outputDirectory request.fileName) = .ok l)
      (hcontent : turn.after.store.content? l = some []) : Puts turn l []

/-- Turns in which each job runs in the surroundings that the one before it left. -/
inductive Batch : World → List Turn → World → Prop
  | done (w : World) : Batch w [] w
  | turn {turn : Turn} {turns : List Turn} {w' : World} (hrun : turn.Runs)
      (hrest : Batch turn.after turns w') : Batch turn.before (turn :: turns) w'

/-- A batch of jobs ends with one result for each job in order, or with the first error. -/
theorem batch_of_runAll {outcome : Except Error (List Result)}
    (h : w.perform (runAll jobs) = (outcome, w')) :
    (∃ turns, Batch w turns w' ∧ turns.map Turn.job = jobs ∧
        outcome = .ok (turns.map Turn.result)) ∨
      ∃ turns w₁ job rest e, Batch w turns w₁ ∧ turns.map Turn.job ++ job :: rest = jobs ∧
        w₁.perform job.run = (.error e, w') ∧ outcome = .error e := by
  -- Induction on the jobs; each of them moves the world on.
  induction jobs generalizing w w' outcome with
  | nil =>
    obtain ⟨rfl, rfl⟩ := Prod.mk.inj h
    exact .inl ⟨[], .done w, rfl, rfl⟩
  | cons job jobs ih =>
    rw [runAll] at h
    rcases perform_bind_cases h with ⟨e, hrun, rfl⟩ | ⟨result, w₁, hrun, h⟩
    · exact .inr ⟨[], w, job, jobs, e, .done w, rfl, hrun, rfl⟩
    · have hfirst : Turn.Runs ⟨job, w, result, w₁⟩ := hrun
      rcases perform_bind_cases h with ⟨e, hrest, rfl⟩ | ⟨results, w₂, hrest, h⟩
      · obtain ⟨turns, hbatch, rfl, hok⟩ | ⟨turns, w₃, job', rest, e', hbatch, rfl, herror, he⟩ :=
          ih hrest
        · cases hok
        · obtain rfl := Except.error.inj he
          -- The job that stopped the others stops all of them; the first has had its turn.
          exact .inr ⟨_, w₃, job', rest, e, .turn hfirst hbatch, rfl, herror, rfl⟩
      · obtain ⟨turns, hbatch, rfl, hok⟩ | ⟨turns, w₃, job', rest, e', hbatch, rfl, herror, he⟩ :=
          ih hrest
        · obtain rfl := Except.ok.inj hok
          obtain ⟨rfl, rfl⟩ := Prod.mk.inj h
          exact .inl ⟨_, .turn hfirst hbatch, rfl, rfl⟩
        · cases he

/-- The jobs of a batch give the results of their turns. -/
theorem runAll_of_batch {turns : List Turn} (h : Batch w turns w') :
    w.perform (runAll (turns.map Turn.job)) = (.ok (turns.map Turn.result), w') := by
  induction h with
  | done => rfl
  | turn hrun _ ih =>
    rw [List.map_cons, runAll, perform_bind, hrun]
    simp only [perform_bind, ih, perform_pure, List.map_cons]

/-- A job that raises an error after some turns ends the batch. -/
theorem runAll_of_batch_of_error {turns : List Turn} {job : Job} (rest : List Job) {e : Error}
    {w₁ : World} (h : Batch w turns w₁) (herror : w₁.perform job.run = (.error e, w')) :
    w.perform (runAll (turns.map Turn.job ++ job :: rest)) = (.error e, w') := by
  induction h with
  | done => rw [List.map_nil, List.nil_append, runAll, perform_bind, herror]
  | turn hrun _ ih =>
    rw [List.map_cons, List.cons_append, runAll, perform_bind, hrun]
    simp only [perform_bind, ih herror]

/-! ### One turn -/

variable {turn : Turn} {turns : List Turn} {l : Location}

theorem Turn.target?_of_file {file : Path} {target : Location}
    (hfile : turn.result.file? = some file)
    (htarget : turn.after.store.resolve file = .ok target) : turn.target? = some target := by
  simp [Turn.target?, hfile, htarget, Except.toOption]

theorem Turn.target?_of_none (hfile : turn.result.file? = none) : turn.target? = none := by
  simp [Turn.target?, hfile]

/-- **One turn** keeps directories. -/
theorem keeps_turn (hrun : turn.Runs) : turn.before.store.Keeps turn.after.store :=
  (ran_run hrun).keeps

/-- What a turn does to the contents of files. -/
inductive Turn.Effect (turn : Turn) : Prop
  | puts {target : Location} {bytes : List UInt8} (hputs : turn.Puts target bytes)
      (htarget : ∀ l, turn.target? = some l → l = target)
      (hgets : turn.before.store.Gets turn.job.overwrite target bytes turn.after.store)
  | warned (htarget : turn.target? = none)
      (hcontent : ∀ l, turn.after.store.content? l = turn.before.store.content? l)

theorem effect_turn (hrun : turn.Runs) : turn.Effect := by
  have hran := ran_run hrun
  generalize hresult : turn.result = result at hran
  -- Three ways to run; only a warned job puts no bytes anywhere.
  cases hran with
  | @written request source bytes s₁ d hrequest hsource hbytes hplaced =>
    have hfile : turn.result.file? = some (child turn.job.outputDirectory request.fileName) := by
      rw [hresult]
      rfl
    have htarget := Turn.target?_of_file hfile
      (resolve_of_keeps hplaced.keeps hplaced.resolve_target)
    refine .puts (.written htarget (Job.source?_of_request hrequest hsource) hbytes) ?_ hplaced.gets
    intro l hl
    exact Option.some.inj (hl.symm.trans htarget)
  | spoiled hrequest hsource hfault hplaced =>
    have hgets := hplaced.gets
    have hnone : turn.target? = none := Turn.target?_of_none (by rw [hresult]; rfl)
    refine .puts (.spoiled hrequest (Job.source?_of_request hrequest hsource) hfault ?_
      (resolve_of_keeps hplaced.keeps hplaced.resolve_target) ?_) ?_ hgets
    · rw [hresult]
    · rw [hgets.content?, if_pos rfl]
    · intro l hl
      cases hnone.symm.trans hl
  | warned hopens =>
    exact .warned (Turn.target?_of_none (by rw [hresult]; rfl)) hopens.content?_eq

/-- A job that tells of a file has a target. -/
theorem isSome_file?_turn (hrun : turn.Runs) :
    turn.result.file?.isSome = turn.target?.isSome := by
  cases hfile : turn.result.file? with
  | none =>
    rw [Turn.target?_of_none hfile]
    rfl
  | some file =>
    have hran := ran_run hrun
    generalize hresult : turn.result = result at hran
    rw [hresult] at hfile
    cases hran with
    | written _ _ _ hplaced =>
      obtain rfl := Option.some.inj hfile
      rw [Turn.target?_of_file (by rw [hresult]; rfl)
        (resolve_of_keeps hplaced.keeps hplaced.resolve_target)]
      rfl
    | spoiled => cases hfile
    | warned => cases hfile

/-- **One turn** changes the content of one location only. -/
theorem content?_turn (hrun : turn.Runs) (l : Location) :
    ((∀ bytes, ¬turn.Puts l bytes) ∧
        turn.after.store.content? l = turn.before.store.content? l) ∨
      ∃ bytes, turn.Puts l bytes ∧ turn.after.store.content? l = some bytes := by
  -- What a turn does not put, its effect leaves.
  by_cases hputs : ∃ bytes, turn.Puts l bytes
  · refine .inr ?_
    obtain ⟨bytes, hputs⟩ := hputs
    cases hputs with
    | spoiled hrequest hsource hfault hresult hresolve hcontent =>
      exact ⟨[], .spoiled hrequest hsource hfault hresult hresolve hcontent, hcontent⟩
    | written htarget hsource hbytes =>
      cases effect_turn hrun with
      | @puts target bytes' hputs' htarget' hgets =>
        obtain rfl := htarget' l htarget
        exact ⟨bytes', hputs', by rw [hgets.content?, if_pos rfl]⟩
      | warned hnone => cases hnone.symm.trans htarget
  · refine .inl ⟨fun bytes h => hputs ⟨bytes, h⟩, ?_⟩
    cases effect_turn hrun with
    | @puts target bytes hputs' _ hgets =>
      rw [hgets.content?, if_neg]
      rintro rfl
      exact hputs ⟨bytes, hputs'⟩
    | warned _ hcontent => exact hcontent l

/-- The target of a job has a content after its turn. -/
theorem content?_after_target (hrun : turn.Runs) (htarget : turn.target? = some l) :
    ∃ bytes, turn.after.store.content? l = some bytes := by
  cases effect_turn hrun with
  | @puts target bytes _ htarget' hgets =>
    obtain rfl := htarget' l htarget
    exact ⟨bytes, by rw [hgets.content?, if_pos rfl]⟩
  | warned hnone => cases hnone.symm.trans htarget

section Keeping

/-- The target of a job that may not overwrite holds no file before. -/
theorem content?_before_target (hrun : turn.Runs) (hkeep : turn.job.overwrite = false)
    (htarget : turn.target? = some l) : turn.before.store.content? l = none := by
  cases effect_turn hrun with
  | puts _ htarget' hgets => exact htarget' l htarget ▸ hgets.free hkeep
  | warned hnone => cases hnone.symm.trans htarget

/-- A job that may not overwrite leaves every file as it is. -/
theorem content?_of_keep_turn (hrun : turn.Runs) (hkeep : turn.job.overwrite = false)
    {content : List UInt8} (hl : turn.before.store.content? l = some content) :
    turn.after.store.content? l = some content := by
  cases effect_turn hrun with
  | @puts target bytes _ _ hgets =>
    rw [hgets.content?, if_neg, hl]
    rintro rfl
    cases (hgets.free hkeep).symm.trans hl
  | warned _ hcontent => exact (hcontent l).trans hl

end Keeping

/-! ## Batches -/

theorem runs_of_batch (h : Batch w turns w') (hmem : turn ∈ turns) : turn.Runs := by
  induction h with
  | done => cases hmem
  | turn hrun _ ih =>
    rcases List.mem_cons.1 hmem with rfl | hmem
    · exact hrun
    · exact ih hmem

theorem keeps_batch (h : Batch w turns w') : w.store.Keeps w'.store := by
  induction h with
  | done w => exact ⟨rfl, fun _ hl => hl⟩
  | turn hrun _ ih => exact (keeps_turn hrun).trans ih

/-- A file that a job tells of stays where it was written. -/
theorem resolve_batch (h : Batch w turns w') {file : Path} (hmem : turn ∈ turns)
    (hfile : turn.result.file? = some file) :
    ∃ target, turn.target? = some target ∧ w'.store.resolve file = .ok target := by
  induction h with
  | done => cases hmem
  | @turn first turns w' hrun hrest ih =>
    rcases List.mem_cons.1 hmem with rfl | hmem
    · have hsome := isSome_file?_turn hrun
      rw [hfile] at hsome
      obtain ⟨target, htarget⟩ := Option.isSome_iff_exists.1 hsome.symm
      refine ⟨target, htarget, resolve_of_keeps (keeps_batch hrest) ?_⟩
      unfold Turn.target? at htarget
      rw [hfile, Option.bind_some] at htarget
      cases hresolve : turn.after.store.resolve file with
      | error cause => simp [hresolve, Except.toOption] at htarget
      | ok l => simpa [hresolve, Except.toOption] using htarget
    · exact ih hmem

/-- The bytes that some turns put at a location last, if any of them puts something there. -/
inductive LastPut (l : Location) : List Turn → Option (List UInt8) → Prop
  | untouched {turns : List Turn} (h : ∀ turn ∈ turns, ∀ bytes, ¬turn.Puts l bytes) :
      LastPut l turns none
  | put (before : List Turn) {after : List Turn} {turn : Turn} {bytes : List UInt8}
      (h : turn.Puts l bytes) (hafter : ∀ later ∈ after, ∀ bytes, ¬later.Puts l bytes) :
      LastPut l (before ++ turn :: after) (some bytes)

/-- **The last writer wins.** -/
theorem content?_batch (h : Batch w turns w') (l : Location) :
    ∃ put, LastPut l turns put ∧ w'.store.content? l = put.or (w.store.content? l) := by
  induction h with
  | done => exact ⟨none, .untouched (List.forall_mem_nil _), rfl⟩
  | @turn turn turns w' hrun _ ih =>
    obtain ⟨put, hput, hcontent⟩ := ih
    cases hput with
    | put before hputs hafter => exact ⟨_, .put (turn :: before) hputs hafter, hcontent⟩
    | untouched hrest =>
      rw [Option.none_or] at hcontent
      rcases content?_turn hrun l with ⟨hnone, hsame⟩ | ⟨bytes, hputs, hbytes⟩
      · exact ⟨none, .untouched (List.forall_mem_cons.2 ⟨hnone, hrest⟩), hcontent.trans hsame⟩
      · exact ⟨some bytes, .put [] hputs hrest, hcontent.trans hbytes⟩

section Keeping

/-- Where no job may overwrite, every file keeps its content. -/
theorem content?_of_keep (h : Batch w turns w')
    (hkeep : ∀ turn ∈ turns, turn.job.overwrite = false) {content : List UInt8}
    (hl : w.store.content? l = some content) : w'.store.content? l = some content := by
  induction h with
  | done => exact hl
  | turn hrun _ ih =>
    rw [List.forall_mem_cons] at hkeep
    exact ih hkeep.2 (content?_of_keep_turn hrun hkeep.1 hl)

/-- Where no job may overwrite, a location with a file is no target. -/
theorem content?_eq_none_of_target (h : Batch w turns w')
    (hkeep : ∀ turn ∈ turns, turn.job.overwrite = false) (hmem : turn ∈ turns)
    (htarget : turn.target? = some l) : w.store.content? l = none := by
  induction h with
  | done => cases hmem
  | @turn first turns w' hrun _ ih =>
    rw [List.forall_mem_cons] at hkeep
    rcases List.mem_cons.1 hmem with rfl | hmem
    · exact content?_before_target hrun hkeep.1 htarget
    · have hnone := ih hkeep.2 hmem
      by_contra hsome
      obtain ⟨content, hl⟩ := Option.ne_none_iff_exists'.1 hsome
      cases (content?_of_keep_turn hrun hkeep.1 hl).symm.trans hnone

/-- Where no job may overwrite, no two turns have the same target. -/
theorem nodup_targets (h : Batch w turns w')
    (hkeep : ∀ turn ∈ turns, turn.job.overwrite = false) :
    (turns.filterMap Turn.target?).Nodup := by
  induction h with
  | done => exact List.nodup_nil
  | @turn turn turns w' hrun hrest ih =>
    rw [List.forall_mem_cons] at hkeep
    cases htarget : turn.target? with
    | none =>
      rw [List.filterMap_cons_none htarget]
      exact ih hkeep.2
    | some target =>
      rw [List.filterMap_cons_some htarget, List.nodup_cons]
      refine ⟨fun hmem => ?_, ih hkeep.2⟩
      -- What the first turn left at its target is there when a later one comes to it.
      obtain ⟨later, hlater, htarget'⟩ := List.mem_filterMap.1 hmem
      have hnone := content?_eq_none_of_target hrest hkeep.2 hlater htarget'
      obtain ⟨bytes, hbytes⟩ := content?_after_target hrun htarget
      cases hbytes.symm.trans hnone

end Keeping

/-! ## The whole run -/

/-- What a batch that comes to its end has done. -/
structure Finished (w : World) (jobs : List Job) (turns : List Turn) (summary : Summary)
    (w' : World) : Prop where
  batch : Batch w turns w'
  jobs_eq : turns.map Turn.job = jobs
  results : summary.toValue.member? "results" =
    some (.list (turns.map fun turn => turn.result.toValue))
  written : summary.toValue.member? "written" =
    some (.int (turns.filter fun turn => turn.target?.isSome).length)
  target : ∀ turn ∈ turns, match turn.target? with
    | none => turn.result.toValue.member? "file" = some .null
    | some target => ∃ file, turn.result.toValue.member? "file" = some (.text file.text) ∧
        w'.store.resolve file = .ok target
  content : ∀ l, ∃ put, LastPut l turns put ∧
    w'.store.content? l = put.or (w.store.content? l)
  kept : (∀ job ∈ jobs, job.overwrite = false) →
    ∀ l content, w.store.content? l = some content → w'.store.content? l = some content
  distinct : (∀ job ∈ jobs, job.overwrite = false) → (turns.filterMap Turn.target?).Nodup

theorem finished_of_batch {summary : Summary} (h : Batch w turns w')
    (hresults : summary.results = turns.map Turn.result) :
    Finished w (turns.map Turn.job) turns summary w' where
  batch := h
  jobs_eq := rfl
  results := by
    have hmember : summary.toValue.member? "results" =
        some (.list (summary.results.map Result.toValue)) := rfl
    rw [hmember, hresults, List.map_map]
    rfl
  written := by
    have hmember : summary.toValue.member? "written" = some (.int summary.written) := rfl
    have hsame : (turns.filter fun turn => turn.result.file?.isSome) =
        turns.filter fun turn => turn.target?.isSome :=
      List.filter_congr fun turn hmem => by
        rw [isSome_file?_turn (runs_of_batch h hmem)]
    rw [hmember, Summary.written, hresults, List.filter_map, List.length_map, ← hsame]
    rfl
  target := by
    intro turn hmem
    have hsome := isSome_file?_turn (runs_of_batch h hmem)
    rw [Result.member?_file]
    cases hfile : turn.result.file? with
    | none =>
      cases htarget : turn.target? with
      | none => rfl
      | some target => simp [hfile, htarget] at hsome
    | some file =>
      obtain ⟨target, htarget, hresolve⟩ := resolve_batch h hmem hfile
      rw [htarget]
      exact ⟨file, rfl, hresolve⟩
  content := content?_batch h
  kept := by
    intro hkeep l content hl
    exact content?_of_keep h (fun turn hmem => hkeep _ (List.mem_map_of_mem hmem)) hl
  distinct := by
    intro hkeep
    exact nodup_targets h fun turn hmem => hkeep _ (List.mem_map_of_mem hmem)

/-- A manifest with an item that describes no job is not loaded, wherever the item stands. -/
theorem exists_load_eq_error [YamlLibrary] {text : Text} {items : Payloads} {item : Option Payload}
    (htext : (w.perform (Workspace.readText path)).1 = .ok text)
    (hitems : payloads path text = .ok items) (hmem : item ∈ items)
    (hbad : ∀ job, ¬Describes path item job) : ∃ e, (w.perform (load path)).1 = .error e := by
  -- Loading would give a job for every item, and this one describes none.
  rw [perform_load, htext]
  cases hjobs : jobsOf path text with
  | error e => exact ⟨e, hjobs⟩
  | ok jobs =>
    obtain ⟨items', hitems', hall⟩ := jobsOf_eq_ok_iff.1 hjobs
    obtain rfl : items = items' := Except.ok.inj (hitems.symm.trans hitems')
    have hgood := (List.forall₂_and_left _ _).1
      (hall.imp fun item job h => (⟨⟨job, h⟩, h⟩ : (∃ job, Describes path item job) ∧ _))
    obtain ⟨job, hjob⟩ := hgood.1 item hmem
    exact absurd hjob (hbad job)

/-- A run that gives a summary has loaded jobs and comes to their end. -/
theorem exists_finished_of_run [YamlLibrary] {summary : Summary}
    (h : w.perform (run path) = (.ok summary, w')) :
    ∃ jobs turns, (w.perform (load path)).1 = .ok jobs ∧ Finished w jobs turns summary w' := by
  rw [perform_run] at h
  cases hload : (w.perform (load path)).1 with
  | error e =>
    rw [hload] at h
    cases h
  | ok jobs =>
    rw [hload] at h
    simp only at h
    rcases hall : w.perform (runAll jobs) with ⟨ended, w₁⟩
    rw [hall] at h
    rcases batch_of_runAll hall with ⟨turns, hbatch, rfl, rfl⟩ | ⟨_, _, _, _, _, _, _, _, rfl⟩
    · obtain ⟨hsummary, rfl⟩ := Prod.mk.inj h
      obtain rfl := Except.ok.inj hsummary
      exact ⟨_, turns, rfl, finished_of_batch hbatch rfl⟩
    · cases h

/-- **The last writer wins.** A manifest that cannot be loaded does nothing. Otherwise each job
gives its result in order, and a location ends with what a job put there last: the source of a job
that tells of the file, or nothing for a source without bytes. -/
theorem run_last_write [YamlLibrary] {outcome : Except Error Summary}
    (h : w.perform (run path) = (outcome, w')) :
    (∀ e, (w.perform (load path)).1 = .error e → outcome = .error e ∧ w' = w) ∧
      (∀ text items item, (w.perform (Workspace.readText path)).1 = .ok text →
        payloads path text = .ok items → item ∈ items → (∀ job, ¬Describes path item job) →
          ∃ e, (w.perform (load path)).1 = .error e) ∧
      ∀ summary, outcome = .ok summary → ∃ jobs turns,
        (w.perform (load path)).1 = .ok jobs ∧ Finished w jobs turns summary w' := by
  refine ⟨fun e he => ?_, fun _ _ _ => exists_load_eq_error, ?_⟩
  · rw [perform_run, he] at h
    obtain ⟨rfl, rfl⟩ := Prod.mk.inj h
    exact ⟨rfl, rfl⟩
  · rintro summary rfl
    exact exists_finished_of_run h

/-- A second job for the same type replaces what the first one wrote. -/
theorem run_last_write_twice :
    let _ : YamlLibrary := Yaml.library
    let text : Text :=
      "[\x7b\"comment\":\"1-a\",\"type_name\":\"T\"\x7d," ++
        "\x7b\"comment\":\"2-b\",\"type_name\":\"T\",\"overwrite\":true\x7d]"
    let w : World := ⟨⟨[([Utf8.bytes "m.json"], .file (Utf8.bytes text))], []⟩, [], []⟩
    let path := Path.ofText "m.json"
    let first : Job :=
      { name := "T", outputDirectory := ⟨0, []⟩, comment := .text "1-a", commentFile := none
        source := none, field := .null, typeName := .text "T", package := [], suffix := "Enum"
        overwrite := false, lombok := true }
    let second : Job := { first with comment := .text "2-b", overwrite := true }
    ∃ summary w' turns, w.perform (run path) = (.ok summary, w') ∧
      summary.results.map Result.file? =
        [some (Path.ofText "T.java"), some (Path.ofText "T.java")] ∧
      Finished w [first, second] turns summary w' := by
  intro _ text w path first second
  have hload : (w.perform (load path)).1 = .ok [first, second] := by
    have htext : (w.perform (Workspace.readText path)).1 = .ok text := by
      simp only [w, text, path]
      cbv
    have hjson : Json.read text = .ok (.list ([
        [(.text "comment", .text "1-a"), (.text "type_name", .text "T")],
        [(.text "comment", .text "2-b"), (.text "type_name", .text "T"),
          (.text "overwrite", .bool true)]].map Value.mapping)) := by
      simp only [text]
      cbv
    exact load_json (by decide) htext hjson (.cons rfl (.cons rfl .nil))
  have hfiles : (w.perform (run path)).1.toOption.bind
      (fun summary => some (summary.results.map Result.file?)) =
        some [some (Path.ofText "T.java"), some (Path.ofText "T.java")] := by decide +kernel
  obtain ⟨summary, hrun, hfiles⟩ := exists_perform_eq_ok hfiles
  obtain ⟨_, turns, hload', hfinished⟩ := (run_last_write hrun).2.2 _ rfl
  obtain rfl := Except.ok.inj (hload.symm.trans hload')
  exact ⟨summary, _, turns, hrun, Option.some.inj hfiles, hfinished⟩

/-- A description that is half of a surrogate pair empties a file that no result tells of. -/
theorem not_run_keeps_untold :
    let _ : YamlLibrary := Yaml.library
    ¬∀ (path : Path) (w w' : World) (summary : Summary),
      w.perform (run path) = (.ok summary, w') → ∀ l,
        (∀ result ∈ summary.results, ∀ file, result.file? = some file →
          w'.store.resolve file ≠ .ok l) →
        w'.store.content? l = w.store.content? l := by
  intro _ h
  -- The comment holds half a pair: the file is opened, which empties it, and then the write
  -- fails, so that the result names no file.
  let text : Text :=
    "[\x7b\"comment\":\"1-\\ud800\",\"type_name\":\"T\",\"overwrite\":true\x7d]"
  let w : World := ⟨⟨[([Utf8.bytes "m.json"], .file (Utf8.bytes text)),
    ([Utf8.bytes "T.java"], .file (Utf8.bytes "old"))], []⟩, [], []⟩
  let path := Path.ofText "m.json"
  have hfiles : (w.perform (run path)).1.toOption.bind
      (fun summary => some (summary.results.map Result.file?)) = some [none] := by decide +kernel
  have hcontent : (w.perform (run path)).2.store.content? [Utf8.bytes "T.java"] ≠
      w.store.content? [Utf8.bytes "T.java"] := by decide +kernel
  obtain ⟨summary, hrun, hfiles⟩ := exists_perform_eq_ok hfiles
  refine hcontent (h path w _ summary hrun _ fun result hresult file hfile => ?_)
  have hnone := List.mem_map_of_mem (f := Result.file?) hresult
  rw [Option.some.inj hfiles, List.mem_singleton, hfile] at hnone
  cases hnone

end Manifest

end DocEnum
