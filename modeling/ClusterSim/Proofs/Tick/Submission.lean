import ClusterSim.Tick

/-!
# What the sources of a tick submit

The sources are asked in turn, each with the supply of identities that the one before it left, and
none after the first that fails. Main statements: `Intake.made_collect`, what the asked sources
leave behind, with the queue as in `Intake.queue_collect`, and
`Intake.failure_collect_eq_some_iff`, the error of the one that failed, which
`Submitter.exists_failing` finds in its place.
-/

namespace ClusterSim

namespace Reply

variable {σ : Type}

/-- The pods that a source returned; none if it failed. -/
def pods (reply : Reply σ) : List Pod :=
  match reply.answer with
  | .ok pods => pods
  | .error _ => []

end Reply

namespace Submitter

variable {σ : Type} [Submitter σ] (now : Instant) (snapshots : List NodeSnapshot)

/-- The replies of sources that are asked in turn, up to the first that fails. -/
def replies : PodId.Supply → List σ → List (Reply σ)
  | _, [] => []
  | supply, source :: rest =>
    let reply := submit source supply now snapshots
    match reply.answer with
    | .ok _ => reply :: replies reply.supply rest
    | .error _ => [reply]

/-- The pods that the sources return, in order. -/
def returned (supply : PodId.Supply) (sources : List σ) : List Pod :=
  (replies now snapshots supply sources).flatMap (·.pods)

variable {now snapshots}

theorem replies_of_ok {supply : PodId.Supply} {source : σ} {rest : List σ} {pods : List Pod}
    (h : (submit source supply now snapshots).answer = .ok pods) :
    replies now snapshots supply (source :: rest) =
      submit source supply now snapshots ::
        replies now snapshots (submit source supply now snapshots).supply rest := by
  rw [replies, h]

theorem replies_of_error {supply : PodId.Supply} {source : σ} {rest : List σ}
    {error : SubmitError} (h : (submit source supply now snapshots).answer = .error error) :
    replies now snapshots supply (source :: rest) = [submit source supply now snapshots] := by
  rw [replies, h]

theorem returned_of_ok {supply : PodId.Supply} {source : σ} {rest : List σ} {pods : List Pod}
    (h : (submit source supply now snapshots).answer = .ok pods) :
    returned now snapshots supply (source :: rest) =
      pods ++ returned now snapshots (submit source supply now snapshots).supply rest := by
  rw [returned, replies_of_ok h, List.flatMap_cons, Reply.pods, h]
  rfl

theorem returned_of_error {supply : PodId.Supply} {source : σ} {rest : List σ}
    {error : SubmitError} (h : (submit source supply now snapshots).answer = .error error) :
    returned now snapshots supply (source :: rest) = [] := by
  rw [returned, replies_of_error h, List.flatMap_cons, Reply.pods, h]
  rfl

/-! ### The source that fails -/

/-- The supply that is left after replies given in turn. -/
def supplyAfter (supply : PodId.Supply) : List (Reply σ) → PodId.Supply
  | [] => supply
  | reply :: rest => supplyAfter reply.supply rest

variable (now snapshots) in
/-- No source fails when they are asked in turn. -/
def AllAnswer (supply : PodId.Supply) (sources : List σ) : Prop :=
  ∀ reply ∈ replies now snapshots supply sources, ∃ pods, reply.answer = .ok pods

theorem allAnswer_nil (supply : PodId.Supply) :
    AllAnswer now snapshots supply ([] : List σ) := by
  intro reply hmem
  cases hmem

theorem allAnswer_cons {supply : PodId.Supply} {source : σ} {rest : List σ} {pods : List Pod}
    (h : (submit source supply now snapshots).answer = .ok pods)
    (hrest : AllAnswer now snapshots (submit source supply now snapshots).supply rest) :
    AllAnswer now snapshots supply (source :: rest) := by
  intro reply hmem
  rw [replies_of_ok h] at hmem
  rcases List.mem_cons.1 hmem with rfl | hmem
  · exact ⟨pods, h⟩
  · exact hrest reply hmem

/-- Every source is asked if none fails. -/
theorem AllAnswer.length_replies {supply : PodId.Supply} {sources : List σ}
    (h : AllAnswer now snapshots supply sources) :
    (replies now snapshots supply sources).length = sources.length := by
  induction sources generalizing supply with
  | nil => rfl
  | cons source rest ih =>
    cases hanswer : (submit source supply now snapshots).answer with
    | ok pods =>
      have hrest : AllAnswer now snapshots (submit source supply now snapshots).supply rest :=
        fun reply hmem => h reply (replies_of_ok hanswer ▸ List.mem_cons_of_mem _ hmem)
      rw [replies_of_ok hanswer, List.length_cons, ih hrest, List.length_cons]
    | error error =>
      obtain ⟨pods, hok⟩ := h _ (replies_of_error hanswer ▸ List.mem_singleton.2 rfl)
      cases hok.symm.trans hanswer

/-- The source that fails is asked after those before it, which answer, and as the last one. -/
theorem exists_failing {supply : PodId.Supply} {sources : List σ} {error : SubmitError}
    (h : ∃ reply ∈ replies now snapshots supply sources, reply.answer = .error error) :
    ∃ asked failing rest last, sources = asked ++ failing :: rest ∧
      AllAnswer now snapshots supply asked ∧
      last = submit failing (supplyAfter supply (replies now snapshots supply asked))
        now snapshots ∧
      last.answer = .error error ∧
      replies now snapshots supply sources = replies now snapshots supply asked ++ [last] := by
  induction sources generalizing supply with
  | nil =>
    obtain ⟨reply, hmem, -⟩ := h
    cases hmem
  | cons source rest ih =>
    obtain ⟨reply, hmem, herror⟩ := h
    cases hanswer : (submit source supply now snapshots).answer with
    | ok pods =>
      rw [replies_of_ok hanswer] at hmem
      have hlater : reply ∈
          replies now snapshots (submit source supply now snapshots).supply rest := by
        rcases List.mem_cons.1 hmem with rfl | hmem
        · cases hanswer.symm.trans herror
        · exact hmem
      obtain ⟨asked, failing, untouched, last, rfl, hasked, hlast, hfails, hreplies⟩ :=
        ih ⟨reply, hlater, herror⟩
      refine ⟨source :: asked, failing, untouched, last, rfl, allAnswer_cons hanswer hasked, ?_,
        hfails, ?_⟩
      · rw [replies_of_ok hanswer]
        exact hlast
      · rw [replies_of_ok hanswer, replies_of_ok hanswer, hreplies]
        rfl
    | error first =>
      rw [replies_of_error hanswer] at hmem ⊢
      obtain rfl := List.mem_singleton.1 hmem
      exact ⟨[], source, rest, _, rfl, allAnswer_nil supply, rfl, herror, rfl⟩

/-- The source that fails returns nothing. -/
theorem returned_of_failing {supply : PodId.Supply} {sources asked : List σ} {last : Reply σ}
    {error : SubmitError}
    (hreplies : replies now snapshots supply sources =
      replies now snapshots supply asked ++ [last])
    (hlast : last.answer = .error error) :
    returned now snapshots supply sources = returned now snapshots supply asked := by
  rw [returned, hreplies, List.flatMap_append, List.flatMap_singleton, Reply.pods, hlast]
  exact List.append_nil _

end Submitter

namespace Intake

variable {σ : Type} [Submitter σ] {now : Instant} {snapshots : List NodeSnapshot}

open Submitter

theorem collect_of_ok {supply : PodId.Supply} {queue : PodQueue} {source : σ} {rest : List σ}
    {pods : List Pod} (h : (submit source supply now snapshots).answer = .ok pods) :
    (collect now snapshots supply queue (source :: rest)).queue =
        (collect now snapshots (submit source supply now snapshots).supply
          (queue.pushAll (pods.map (Pod.stamp now))) rest).queue ∧
      (collect now snapshots supply queue (source :: rest)).failure =
        (collect now snapshots (submit source supply now snapshots).supply
          (queue.pushAll (pods.map (Pod.stamp now))) rest).failure ∧
      (collect now snapshots supply queue (source :: rest)).submitted =
        pods.length + (collect now snapshots (submit source supply now snapshots).supply
          (queue.pushAll (pods.map (Pod.stamp now))) rest).submitted := by
  rw [collect, h]
  refine ⟨rfl, rfl, ?_⟩
  rw [submitted, List.flatMap_cons, List.length_append, List.length_map]
  rfl

theorem collect_of_error {supply : PodId.Supply} {queue : PodQueue} {source : σ} {rest : List σ}
    {error : SubmitError} (h : (submit source supply now snapshots).answer = .error error) :
    (collect now snapshots supply queue (source :: rest)).queue = queue ∧
      (collect now snapshots supply queue (source :: rest)).failure = some error ∧
      (collect now snapshots supply queue (source :: rest)).submitted = 0 := by
  rw [collect, h]
  exact ⟨rfl, rfl, rfl⟩

/-- Every pod that the asked sources returned is stamped and put into the queue, in order. -/
theorem queue_collect (now : Instant) (snapshots : List NodeSnapshot) (supply : PodId.Supply)
    (queue : PodQueue) (sources : List σ) :
    (collect now snapshots supply queue sources).queue =
      queue.pushAll ((returned now snapshots supply sources).map (Pod.stamp now)) := by
  induction sources generalizing supply queue with
  | nil => rfl
  | cons source rest ih =>
    cases h : (submit source supply now snapshots).answer with
    | ok pods =>
      rw [(collect_of_ok h).1, ih, returned_of_ok h, List.map_append]
      exact List.foldl_append.symm
    | error error =>
      rw [(collect_of_error h).1, returned_of_error h]
      rfl

/-- All returned pods are counted. -/
theorem submitted_collect (now : Instant) (snapshots : List NodeSnapshot)
    (supply : PodId.Supply) (queue : PodQueue) (sources : List σ) :
    (collect now snapshots supply queue sources).submitted =
      (returned now snapshots supply sources).length := by
  induction sources generalizing supply queue with
  | nil => rfl
  | cons source rest ih =>
    cases h : (submit source supply now snapshots).answer with
    | ok pods => rw [(collect_of_ok h).2.2, ih, returned_of_ok h, List.length_append]
    | error error =>
      rw [(collect_of_error h).2.2, returned_of_error h]
      rfl

/-- The submission fails with the very error that one of the asked sources returned. -/
theorem failure_collect_eq_some_iff {supply : PodId.Supply} {queue : PodQueue} {sources : List σ}
    {error : SubmitError} :
    (collect now snapshots supply queue sources).failure = some error ↔
      ∃ reply ∈ replies now snapshots supply sources, reply.answer = .error error := by
  induction sources generalizing supply queue with
  | nil =>
    constructor
    · intro h
      cases h
    · rintro ⟨reply, hmem, -⟩
      cases hmem
  | cons source rest ih =>
    cases h : (submit source supply now snapshots).answer with
    | ok pods =>
      rw [(collect_of_ok h).2.1, ih, replies_of_ok h]
      constructor
      · rintro ⟨reply, hmem, herror⟩
        exact ⟨reply, List.mem_cons_of_mem _ hmem, herror⟩
      · rintro ⟨reply, hmem, herror⟩
        rcases List.mem_cons.1 hmem with rfl | hmem
        · rw [h] at herror
          cases herror
        · exact ⟨reply, hmem, herror⟩
    | error first =>
      rw [(collect_of_error h).2.1, replies_of_error h, Option.some.injEq]
      constructor
      · rintro rfl
        exact ⟨_, List.mem_singleton.2 rfl, h⟩
      · rintro ⟨reply, hmem, herror⟩
        rw [List.mem_singleton.1 hmem, h] at herror
        exact Except.error.inj herror

/-- What the replies of the asked sources make of the supply, the queue and the sources; those that
were not asked stay as they were. -/
structure Made (intake : Intake σ) (now : Instant) (supply : PodId.Supply) (queue : PodQueue)
    (asked : List σ) (replies : List (Reply σ)) (untouched : List σ) : Prop where
  sources_eq : intake.sources = replies.map (·.source) ++ untouched
  supply_eq : intake.supply = supplyAfter supply replies
  queue_eq : intake.queue = queue.pushAll ((replies.flatMap (·.pods)).map (Pod.stamp now))
  batches_eq : intake.batches = List.zipWith (fun source reply =>
    ⟨name source, reply.events, reply.pods.map (Pod.stamp now)⟩) asked replies
  stops_eq : intake.stops = replies.flatMap (·.stops)

/-- As many sources are asked as there are replies. -/
theorem made_collect (now : Instant) (snapshots : List NodeSnapshot) (supply : PodId.Supply)
    (queue : PodQueue) (sources : List σ) :
    (collect now snapshots supply queue sources).Made now supply queue
      (sources.take (replies now snapshots supply sources).length)
      (replies now snapshots supply sources)
      (sources.drop (replies now snapshots supply sources).length) := by
  induction sources generalizing supply queue with
  | nil => exact ⟨rfl, rfl, rfl, rfl, rfl⟩
  | cons source rest ih =>
    have hqueue : (collect now snapshots supply queue (source :: rest)).queue =
        queue.pushAll (((replies now snapshots supply (source :: rest)).flatMap (·.pods)).map
          (Pod.stamp now)) :=
      queue_collect now snapshots supply queue (source :: rest)
    cases h : (submit source supply now snapshots).answer with
    | ok pods =>
      have later := ih (submit source supply now snapshots).supply
        (queue.pushAll (pods.map (Pod.stamp now)))
      rw [replies_of_ok h, collect, h] at hqueue ⊢
      refine ⟨congrArg (_ :: ·) later.sources_eq, later.supply_eq, hqueue, ?_, ?_⟩
      · rw [List.length_cons, List.take_succ_cons, List.zipWith_cons_cons, Reply.pods, h,
          ← later.batches_eq]
      · rw [List.flatMap_cons, ← later.stops_eq]
    | error error =>
      rw [replies_of_error h, collect, h] at hqueue ⊢
      refine ⟨rfl, rfl, hqueue, ?_, ?_⟩
      · simp [Reply.pods, h]
      · simp

end Intake

end ClusterSim
