import ClusterSim.Proofs.Text.Numeral
import ClusterSim.Proofs.Workload.Config
import ClusterSim.Proofs.Workload.Draw

/-!
# What a random workload submits

Whatever is drawn, the pods of a source are numbered without a gap over all calls and keep to what
the source offers (`RandomSource.exists_submits`), and each pod takes a draw from each range of the
source (`RandomSource.ranges_ask`). For a configured source, that is what the configuration permits
(`random_pods_as_configured`).
-/

namespace ClusterSim

namespace RandomSource

/-! ### What a source has to submit -/

variable {γ : Type} {source next : RandomSource γ} {count : Nat}

/-- The source after so many more pods: its generator and its count have gone on, and nothing else
has changed. -/
structure After (source : RandomSource γ) (count : Nat) (next : RandomSource γ) : Prop where
  podsPerTick_eq : next.podsPerTick = source.podsPerTick
  namePrefix_eq : next.namePrefix = source.namePrefix
  cpu_eq : next.cpu = source.cpu
  memory_eq : next.memory = source.memory
  priorities_eq : next.priorities = source.priorities
  submitted_eq : next.submitted.toNat = source.submitted.toNat + count

/-- The name of the pod with a number. -/
def nameOf (source : RandomSource γ) (number : Nat) : String :=
  source.namePrefix ++ "-" ++ Text.decimal number

/-- A pod with amounts and a priority that the source draws from. -/
structure Offers (source : RandomSource γ) (pod : Pod) : Prop where
  dimensions_eq : pod.demand.dimensions = [Dimension.cpu, Dimension.memory]
  le_cpu : source.cpu.least ≤ pod.demand.get Dimension.cpu
  cpu_le : pod.demand.get Dimension.cpu ≤ source.cpu.greatest
  le_memory : source.memory.least ≤ pod.demand.get Dimension.memory
  memory_le : pod.demand.get Dimension.memory ≤ source.memory.greatest
  priority_mem : pod.priority ∈ source.priorities

namespace After

theorem refl (source : RandomSource γ) : source.After 0 source := ⟨rfl, rfl, rfl, rfl, rfl, rfl⟩

theorem trans {last : RandomSource γ} {more : Nat} (h : source.After count next)
    (hmore : next.After more last) : source.After (count + more) last where
  podsPerTick_eq := hmore.podsPerTick_eq.trans h.podsPerTick_eq
  namePrefix_eq := hmore.namePrefix_eq.trans h.namePrefix_eq
  cpu_eq := hmore.cpu_eq.trans h.cpu_eq
  memory_eq := hmore.memory_eq.trans h.memory_eq
  priorities_eq := hmore.priorities_eq.trans h.priorities_eq
  submitted_eq := by rw [hmore.submitted_eq, h.submitted_eq, Nat.add_assoc]

theorem nameOf_eq (h : source.After count next) : next.nameOf = source.nameOf := by
  unfold nameOf
  rw [h.namePrefix_eq]

theorem offers (h : source.After count next) {pod : Pod} (hpod : next.Offers pod) :
    source.Offers pod := by
  obtain ⟨hdimensions, hleCpu, hcpuLe, hleMemory, hmemoryLe, hpriority⟩ := hpod
  rw [h.cpu_eq] at hleCpu hcpuLe
  rw [h.memory_eq] at hleMemory hmemoryLe
  rw [h.priorities_eq] at hpriority
  exact ⟨hdimensions, hleCpu, hcpuLe, hleMemory, hmemoryLe, hpriority⟩

end After

/-- What a source submits in so many calls: batches of one size, numbered on through all of them,
with pods that it offers. -/
structure Submits (source : RandomSource γ) (calls : Nat) (batches : List (List Pod)) : Prop where
  length_eq : batches.length = calls
  length_batch : ∀ batch ∈ batches, batch.length = source.podsPerTick.toNat
  names_eq : batches.flatten.map (·.name) =
    (List.range' source.submitted.toNat (calls * source.podsPerTick.toNat)).map source.nameOf
  offers : ∀ pod ∈ batches.flatten, source.Offers pod

theorem Submits.cons {calls : Nat} {pods : List Pod} {batches : List (List Pod)}
    (hafter : source.After source.podsPerTick.toNat next)
    (hlength : pods.length = source.podsPerTick.toNat)
    (hnames : pods.map (·.name) =
      (List.range' source.submitted.toNat source.podsPerTick.toNat).map source.nameOf)
    (hoffers : ∀ pod ∈ pods, source.Offers pod) (h : next.Submits calls batches) :
    source.Submits (calls + 1) (pods :: batches) where
  length_eq := by rw [List.length_cons, h.length_eq]
  length_batch := by
    intro batch hmem
    rcases List.mem_cons.1 hmem with rfl | hmem
    · exact hlength
    · rw [h.length_batch batch hmem, hafter.podsPerTick_eq]
  names_eq := by
    rw [List.flatten_cons, List.map_append, hnames, h.names_eq, hafter.nameOf_eq,
      hafter.submitted_eq, hafter.podsPerTick_eq, ← List.map_append, List.range'_append_1,
      Nat.succ_mul, Nat.add_comm (calls * _)]
  offers := by
    intro pod hmem
    rw [List.flatten_cons] at hmem
    rcases List.mem_append.1 hmem with hmem | hmem
    · exact hoffers pod hmem
    · exact hafter.offers (h.offers pod hmem)

/-- The ranges that are drawn from for one pod, in turn. -/
def podRanges (source : RandomSource γ) : List DrawRange :=
  [.between source.cpu.least source.cpu.greatest,
    .between source.memory.least source.memory.greatest, .index source.priorities.length]

theorem After.podRanges_eq (h : source.After count next) : next.podRanges = source.podRanges := by
  unfold podRanges
  rw [h.cpu_eq, h.memory_eq, h.priorities_eq]

theorem nonEmpty_of_mem_podRanges {range : DrawRange} (hmem : range ∈ source.podRanges) :
    range.NonEmpty := by
  simp only [podRanges, List.mem_cons, List.not_mem_nil, or_false] at hmem
  rcases hmem with rfl | rfl | rfl
  · exact source.cpu.least_le
  · exact source.memory.least_le
  · exact List.length_pos_iff.2 source.some_priority

/-! ### One pod after another -/

variable [Generator γ]

/-- The draw of the amount of cpu for the next pod. -/
def cpuDraw (source : RandomSource γ) : Amount × γ :=
  Generator.between source.cpu.least source.cpu.greatest source.generator

/-- The draw of the amount of memory, which comes after that. -/
def memoryDraw (source : RandomSource γ) : Amount × γ :=
  Generator.between source.memory.least source.memory.greatest source.cpuDraw.2

/-- The draw of the place of the priority, which comes last. -/
def priorityDraw (source : RandomSource γ) : Nat × γ :=
  Generator.index source.priorities.length source.memoryDraw.2

theorem demand_nextPod (supply : PodId.Supply) :
    (source.nextPod supply).1.demand =
      (Resources.empty.insert Dimension.cpu source.cpuDraw.1).insert Dimension.memory
        source.memoryDraw.1 := rfl

theorem dimensions_nextPod (supply : PodId.Supply) :
    (source.nextPod supply).1.demand.dimensions = [Dimension.cpu, Dimension.memory] := by
  have hlt : ¬ Dimension.memory < Dimension.cpu := by decide
  have hne : Dimension.memory ≠ Dimension.cpu := by decide
  show (NameMap.insertEntry Dimension.memory source.memoryDraw.1
    [(Dimension.cpu, source.cpuDraw.1)]).map (·.1) = _
  rw [NameMap.insertEntry, if_neg hlt, if_neg hne]
  rfl

theorem priority_nextPod (supply : PodId.Supply) :
    (source.nextPod supply).1.priority = source.priorities.getD source.priorityDraw.1 0 := rfl

theorem name_nextPod (supply : PodId.Supply) :
    (source.nextPod supply).1.name = source.nameOf source.submitted.toNat := rfl

theorem after_nextPod (hroom : source.submitted.toNat + 1 < UInt64.size)
    (supply : PodId.Supply) : source.After 1 (source.nextPod supply).2.1 := by
  refine ⟨rfl, rfl, rfl, rfl, rfl, ?_⟩
  show (Counter.next64 source.submitted).toNat = _
  rw [Counter.toNat_next64]
  omega

theorem offers_nextPod [LawfulGenerator γ] (supply : PodId.Supply) :
    source.Offers (source.nextPod supply).1 := by
  have hcpu : (source.nextPod supply).1.demand.get Dimension.cpu = source.cpuDraw.1 := by
    rw [demand_nextPod, Resources.get_insert, if_neg (by decide), Resources.get_insert, if_pos rfl]
  have hmemory : (source.nextPod supply).1.demand.get Dimension.memory = source.memoryDraw.1 := by
    rw [demand_nextPod, Resources.get_insert, if_pos rfl]
  have hlength : 0 < source.priorities.length := List.length_pos_iff.2 source.some_priority
  have hplace : source.priorityDraw.1 < source.priorities.length :=
    LawfulGenerator.index_lt _ hlength
  refine ⟨dimensions_nextPod supply, ?_, ?_, ?_, ?_, ?_⟩
  · rw [hcpu]
    exact LawfulGenerator.le_between _ source.cpu.least_le
  · rw [hcpu]
    exact LawfulGenerator.between_le _ source.cpu.least_le
  · rw [hmemory]
    exact LawfulGenerator.le_between _ source.memory.least_le
  · rw [hmemory]
    exact LawfulGenerator.between_le _ source.memory.least_le
  · rw [priority_nextPod, List.getD_eq_getElem?_getD, List.getElem?_eq_getElem hplace]
    exact List.getElem_mem hplace

/-! ### Many pods -/

theorem nextPods_succ (supply : PodId.Supply) :
    nextPods (count + 1) source supply =
      ((source.nextPod supply).1 ::
          (nextPods count (source.nextPod supply).2.1 (source.nextPod supply).2.2).1,
        (nextPods count (source.nextPod supply).2.1 (source.nextPod supply).2.2).2) := rfl

theorem length_nextPods (supply : PodId.Supply) :
    (nextPods count source supply).1.length = count := by
  induction count generalizing source supply with
  | zero => rfl
  | succ count ih => rw [nextPods_succ, List.length_cons, ih]

theorem after_nextPods (hroom : source.submitted.toNat + count < UInt64.size)
    (supply : PodId.Supply) : source.After count (nextPods count source supply).2.1 := by
  induction count generalizing source supply with
  | zero => exact .refl source
  | succ count ih =>
    have hfirst := source.after_nextPod (by omega) supply
    have hsubmitted := hfirst.submitted_eq
    rw [nextPods_succ, Nat.add_comm count 1]
    exact hfirst.trans (ih (by omega) _)

/-- The pods are numbered from the number of those that have been submitted before. -/
theorem map_name_nextPods (hroom : source.submitted.toNat + count < UInt64.size)
    (supply : PodId.Supply) :
    (nextPods count source supply).1.map (·.name) =
      (List.range' source.submitted.toNat count).map source.nameOf := by
  induction count generalizing source supply with
  | zero => rfl
  | succ count ih =>
    have hfirst := source.after_nextPod (by omega) supply
    have hsubmitted := hfirst.submitted_eq
    rw [nextPods_succ, List.map_cons, ih (by omega), hsubmitted, hfirst.nameOf_eq, name_nextPod,
      List.range'_succ, List.map_cons]

theorem offers_nextPods [LawfulGenerator γ]
    (hroom : source.submitted.toNat + count < UInt64.size) (supply : PodId.Supply) :
    ∀ pod ∈ (nextPods count source supply).1, source.Offers pod := by
  induction count generalizing source supply with
  | zero => exact fun pod hmem => absurd hmem List.not_mem_nil
  | succ count ih =>
    have hfirst := source.after_nextPod (by omega) supply
    have hsubmitted := hfirst.submitted_eq
    rw [nextPods_succ]
    intro pod hmem
    rcases List.mem_cons.1 hmem with rfl | hmem
    · exact source.offers_nextPod supply
    · exact hfirst.offers (ih (by omega) _ pod hmem)

/-! ### Many calls -/

/-- With what a source is asked: the identities that are left, the clock, and the nodes. -/
structure Call where
  supply : PodId.Supply
  now : Instant
  nodes : List NodeSnapshot

/-- The answers to calls in turn, and the source after them. -/
def ask : RandomSource γ → List Call → List (Except SubmitError (List Pod)) × RandomSource γ
  | source, [] => ([], source)
  | source, call :: rest =>
    let reply := Submitter.submit source call.supply call.now call.nodes
    let (answers, last) := reply.source.ask rest
    (reply.answer :: answers, last)

theorem ask_cons (call : Call) (rest : List Call) :
    source.ask (call :: rest) =
      (.ok (nextPods source.podsPerTick.toNat source call.supply).1 ::
          ((nextPods source.podsPerTick.toNat source call.supply).2.1.ask rest).1,
        ((nextPods source.podsPerTick.toNat source call.supply).2.1.ask rest).2) := rfl

/-- No call fails, and together they submit what they should. -/
theorem exists_submits [LawfulGenerator γ] (source : RandomSource γ) (calls : List Call)
    (hroom : source.submitted.toNat + calls.length * source.podsPerTick.toNat < UInt64.size) :
    ∃ batches, (source.ask calls).1 = batches.map .ok ∧
      source.Submits calls.length batches := by
  induction calls generalizing source with
  | nil =>
    refine ⟨[], rfl, rfl, nofun, ?_, fun _ hmem => absurd hmem List.not_mem_nil⟩
    rw [List.length_nil, Nat.zero_mul]
    rfl
  | cons call rest ih =>
    rw [List.length_cons, Nat.succ_mul] at hroom
    have hfirst : source.submitted.toNat + source.podsPerTick.toNat < UInt64.size := by omega
    have hafter := after_nextPods hfirst call.supply
    obtain ⟨batches, hanswers, hsubmits⟩ := ih _
      (by rw [hafter.submitted_eq, hafter.podsPerTick_eq]; omega)
    refine ⟨_ :: batches, ?_, .cons hafter (length_nextPods call.supply)
      (map_name_nextPods hfirst call.supply) (offers_nextPods hfirst call.supply) hsubmits⟩
    rw [ask_cons, hanswers, List.map_cons]

/-! ### Recorded draws -/

/-- The same source with another generator. -/
def drawingFrom {δ : Type} (source : RandomSource γ) (generator : δ) : RandomSource δ where
  generator
  podsPerTick := source.podsPerTick
  namePrefix := source.namePrefix
  cpu := source.cpu
  memory := source.memory
  priorities := source.priorities
  some_priority := source.some_priority
  submitted := source.submitted

/-- A recording source without its record. -/
def plain (source : RandomSource (Recorded γ)) : RandomSource γ :=
  source.drawingFrom source.generator.generator

variable {recording : RandomSource (Recorded γ)}

theorem nextPods_plain (supply : PodId.Supply) :
    nextPods count recording.plain supply =
      ((nextPods count recording supply).1, (nextPods count recording supply).2.1.plain,
        (nextPods count recording supply).2.2) := by
  induction count generalizing recording supply with
  | zero => rfl
  | succ count ih =>
    -- to draw with a record is to draw without it
    have hpod : recording.plain.nextPod supply = ((recording.nextPod supply).1,
      (recording.nextPod supply).2.1.plain, (recording.nextPod supply).2.2) := rfl
    rw [nextPods_succ, nextPods_succ, hpod, ih]

theorem ask_plain (calls : List Call) :
    recording.plain.ask calls = ((recording.ask calls).1, (recording.ask calls).2.plain) := by
  induction calls generalizing recording with
  | nil => rfl
  | cons call rest ih =>
    have hcount : recording.plain.podsPerTick = recording.podsPerTick := rfl
    rw [ask_cons, ask_cons, hcount, nextPods_plain, ih]

theorem ranges_nextPod (supply : PodId.Supply) :
    (recording.nextPod supply).2.1.generator.ranges =
      recording.generator.ranges ++ recording.podRanges := by
  show recording.generator.ranges ++ [_] ++ [_] ++ [_] = _
  rw [List.append_assoc, List.append_assoc]
  rfl

theorem ranges_nextPods (hroom : recording.submitted.toNat + count < UInt64.size)
    (supply : PodId.Supply) :
    (nextPods count recording supply).2.1.generator.ranges =
      recording.generator.ranges ++ (List.replicate count recording.podRanges).flatten := by
  induction count generalizing recording supply with
  | zero => exact (List.append_nil _).symm
  | succ count ih =>
    have hfirst := recording.after_nextPod (by omega) supply
    have hsubmitted := hfirst.submitted_eq
    rw [nextPods_succ, ih (by omega), ranges_nextPod, hfirst.podRanges_eq, List.replicate_succ,
      List.flatten_cons, List.append_assoc]

/-- Each pod of each call adds the same ranges to the record. -/
theorem ranges_ask (calls : List Call)
    (hroom : recording.submitted.toNat + calls.length * recording.podsPerTick.toNat <
      UInt64.size) :
    (recording.ask calls).2.generator.ranges = recording.generator.ranges ++
      (List.replicate (calls.length * recording.podsPerTick.toNat)
        recording.podRanges).flatten := by
  induction calls generalizing recording with
  | nil =>
    rw [List.length_nil, Nat.zero_mul]
    exact (List.append_nil _).symm
  | cons call rest ih =>
    rw [List.length_cons, Nat.succ_mul] at hroom
    have hfirst : recording.submitted.toNat + recording.podsPerTick.toNat < UInt64.size := by omega
    have hafter := after_nextPods hfirst call.supply
    rw [ask_cons, ih (by rw [hafter.submitted_eq, hafter.podsPerTick_eq]; omega),
      hafter.podsPerTick_eq, hafter.podRanges_eq, ranges_nextPods hfirst, List.length_cons,
      Nat.succ_mul, Nat.add_comm (rest.length * _), List.replicate_add, List.flatten_append,
      List.append_assoc]

/-- None of the recorded ranges is empty. -/
def NoneEmpty (recording : RandomSource (Recorded γ)) : Prop :=
  ∀ range ∈ recording.generator.ranges, range.NonEmpty

end RandomSource

/-- The ranges are those of so many pods, three for each pod: the amounts between the ends of the
range for cpu, those for memory, and the positions in the list of priorities. -/
def RandomConfig.DrawsFrom (config : RandomConfig) (pods : Nat) (ranges : List DrawRange) : Prop :=
  ∃ cpu memory, config.cpu.ReadsAs Dimension.cpu cpu ∧
    config.memory.ReadsAs Dimension.memory memory ∧
    ranges = (List.replicate pods [.between cpu.least cpu.greatest,
      .between memory.least memory.greatest, .index config.priorities.length]).flatten

open RandomSource in
/-- A configuration gives a source of pods exactly if there is a priority and if both ranges can be
read and hold an amount; else the error is the first fault, priorities before cpu before memory, and
in a range the lower end before the upper end before their order.

Whatever a generator draws, if only it draws from a range what is in the range, no call of such a
source fails, and each gives as many pods as configured. Over all calls the pods are numbered from
zero without a gap, and each demands cpu and memory within the ranges and has one of the priorities.
The ranges that are drawn from, as is seen when they are recorded, are the configured ones, for one
pod after another, and none of them is empty. -/
theorem random_pods_as_configured (config : RandomConfig) (entropy : UInt64) :
    ((∃ source, (ofConfig config entropy).2 = .ok source) ↔ config.Drawable) ∧
    (∀ fault, (ofConfig config entropy).2 = .error fault ↔ config.FirstFault fault) ∧
    ∀ source, (ofConfig config entropy).2 = .ok source →
      ∀ {γ : Type} [Generator γ] [LawfulGenerator γ] (generator : γ) (calls : List Call),
        calls.length * config.podsPerTick.toNat < UInt64.size →
        ∃ batches : List (List Pod),
          ((source.drawingFrom generator).ask calls).1 = batches.map .ok ∧
          batches.length = calls.length ∧
          (∀ batch ∈ batches, batch.length = config.podsPerTick.toNat) ∧
          batches.flatten.map (·.name) =
            (List.range (calls.length * config.podsPerTick.toNat)).map
              (fun n => config.namePrefix ++ "-" ++ Text.decimal n) ∧
          (batches.flatten.map (·.name)).Nodup ∧
          (∀ pod ∈ batches.flatten, config.Permits pod) ∧
          ((source.drawingFrom (Recorded.start generator)).ask calls).1 = batches.map .ok ∧
          config.DrawsFrom (calls.length * config.podsPerTick.toNat)
            ((source.drawingFrom (Recorded.start generator)).ask calls).2.generator.ranges ∧
          ((source.drawingFrom (Recorded.start generator)).ask calls).2.NoneEmpty := by
  refine ⟨exists_ofConfig_iff, fun fault => ofConfig_eq_error_iff, ?_⟩
  intro source hsource γ _ _ generator calls hroom
  have hdescribes := describes_of_ofConfig hsource
  have hcount {δ : Type} (drawn : δ) :
      (source.drawingFrom drawn).podsPerTick.toNat = config.podsPerTick.toNat :=
    congrArg UInt32.toNat hdescribes.podsPerTick_eq
  have hzero {δ : Type} (drawn : δ) : (source.drawingFrom drawn).submitted.toNat = 0 :=
    congrArg UInt64.toNat hdescribes.submitted_eq
  obtain ⟨batches, hanswers, hsubmits⟩ :=
    exists_submits (source.drawingFrom generator) calls (by rw [hcount, hzero]; omega)
  have hnames : batches.flatten.map (·.name) =
      (List.range (calls.length * config.podsPerTick.toNat)).map
        (fun n => config.namePrefix ++ "-" ++ Text.decimal n) := by
    have hnamed : (source.drawingFrom generator).namePrefix = config.namePrefix :=
      hdescribes.namePrefix_eq
    rw [hsubmits.names_eq, hcount, hzero, ← List.range_eq_range']
    unfold nameOf
    rw [hnamed]
  have hranges : ((source.drawingFrom (Recorded.start generator)).ask calls).2.generator.ranges =
      (List.replicate (calls.length * config.podsPerTick.toNat) source.podRanges).flatten := by
    rw [ranges_ask calls (by rw [hcount, hzero]; omega), hcount]
    exact List.nil_append _
  refine ⟨batches, hanswers, hsubmits.length_eq, ?_, hnames, ?_, fun pod hmem => ?_, ?_, ?_, ?_⟩
  · intro batch hmem
    rw [hsubmits.length_batch batch hmem, hcount]
  · rw [hnames]
    refine List.nodup_range.map fun m n heq => ?_
    exact Text.decimal_injective (String.append_right_inj _ |>.1 heq)
  · have hoffers := hsubmits.offers pod hmem
    exact
      { dimensions_eq := hoffers.dimensions_eq
        cpu := ⟨source.cpu, hdescribes.cpu, hoffers.le_cpu, hoffers.cpu_le⟩
        memory := ⟨source.memory, hdescribes.memory, hoffers.le_memory, hoffers.memory_le⟩
        priority_mem := hdescribes.priorities_eq ▸ hoffers.priority_mem }
  · rw [← hanswers]
    exact (congrArg Prod.fst (ask_plain calls)).symm
  · refine ⟨source.cpu, source.memory, hdescribes.cpu, hdescribes.memory, ?_⟩
    rw [hranges, podRanges, hdescribes.priorities_eq]
  · intro range hmem
    rw [hranges] at hmem
    obtain ⟨ranges, hreplicated, hrange⟩ := List.mem_flatten.1 hmem
    rw [List.eq_of_mem_replicate hreplicated] at hrange
    exact nonEmpty_of_mem_podRanges hrange

/-- Ranges whose ends would be the other way round as texts, and four pods over two calls, drawn
from the stream of the seed. Neither their names nor the ranges depend on the seed. -/
theorem random_pods_as_configured_two_calls :
    let config : RandomConfig :=
      { seed := some 7
        podsPerTick := 2
        namePrefix := "load"
        cpu := ⟨"900m", "1.5"⟩
        memory := ⟨"512Mi", "1Gi"⟩
        priorities := [-5, 7] }
    let call : RandomSource.Call := ⟨.fresh, .epoch, []⟩
    ∃ source, (RandomSource.ofConfig config 0).2 = .ok source ∧
      ∃ batches : List (List Pod),
        ((source.drawingFrom (WordStream.ofSeed 7)).ask [call, call]).1 = batches.map .ok ∧
        batches.flatten.map (·.name) = ["load-0", "load-1", "load-2", "load-3"] ∧
        (∀ pod ∈ batches.flatten, config.Permits pod) ∧
        config.DrawsFrom 4 ((source.drawingFrom (Recorded.start (WordStream.ofSeed 7))).ask
          [call, call]).2.generator.ranges := by
  intro config call
  have hcpu : config.cpu.ReadsAs Dimension.cpu ⟨900, 1500, by decide⟩ :=
    ⟨by decide +kernel, by decide +kernel⟩
  have hmemory : config.memory.ReadsAs Dimension.memory ⟨536870912, 1073741824, by decide⟩ :=
    ⟨by decide +kernel, by decide +kernel⟩
  have hdrawable : config.Drawable := ⟨by decide, ⟨_, hcpu⟩, ⟨_, hmemory⟩⟩
  obtain ⟨hok, -, hruns⟩ := random_pods_as_configured config 0
  obtain ⟨source, hsource⟩ := hok.2 hdrawable
  obtain ⟨batches, hanswers, -, -, hnames, -, hpermits, -, hdraws, -⟩ :=
    hruns source hsource (WordStream.ofSeed 7) [call, call] (by decide)
  exact ⟨source, hsource, batches, hanswers, hnames.trans (by decide +kernel), hpermits, hdraws⟩

end ClusterSim
