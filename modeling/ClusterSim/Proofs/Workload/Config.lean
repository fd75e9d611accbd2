import ClusterSim.Proofs.Resources
import ClusterSim.Workload.Random

/-!
# Configurations of random workloads

A configuration gives a source exactly if there are priorities and both of its ranges can be read
and hold an amount; else the error is the first fault (`RandomSource.ofConfig_cases`). The source is
then the configured one, before its first pod.
-/

namespace ClusterSim

/-! ### Ranges of quantities -/

namespace QuantityRange

variable {range : QuantityRange} {dimension : String} {amounts : AmountRange}

/-- The ends of the range are written quantities of these amounts. -/
structure ReadsAs (range : QuantityRange) (dimension : String) (amounts : AmountRange) : Prop where
  min_eq : Quantity.parse dimension range.min = .ok amounts.least
  max_eq : Quantity.parse dimension range.max = .ok amounts.greatest

/-- Both ends can be read, and the amounts are in order. -/
def Readable (range : QuantityRange) (dimension : String) : Prop :=
  ∃ amounts, range.ReadsAs dimension amounts

/-- The first fault of a range: that of its lower end, that of its upper end, or that there is no
amount between them. -/
inductive FirstFault (range : QuantityRange) (dimension : String) : RandomConfigError → Prop
  | min {error : QuantityError} (min_eq : Quantity.parse dimension range.min = .error error) :
      FirstFault range dimension (.quantity error)
  | max {least : Amount} {error : QuantityError}
      (min_eq : Quantity.parse dimension range.min = .ok least)
      (max_eq : Quantity.parse dimension range.max = .error error) :
      FirstFault range dimension (.quantity error)
  | empty {least greatest : Amount}
      (min_eq : Quantity.parse dimension range.min = .ok least)
      (max_eq : Quantity.parse dimension range.max = .ok greatest) (lt : greatest < least) :
      FirstFault range dimension (.emptyRange dimension range)

theorem parse_of_readsAs (h : range.ReadsAs dimension amounts) :
    range.parse dimension = .ok amounts := by
  unfold parse
  rw [h.min_eq, h.max_eq]
  exact dif_pos amounts.least_le

theorem parse_of_firstFault {fault : RandomConfigError} (h : range.FirstFault dimension fault) :
    range.parse dimension = .error fault := by
  unfold parse
  cases h with
  | min hmin =>
    rw [hmin]
    rfl
  | max hmin hmax =>
    rw [hmin, hmax]
    rfl
  | empty hmin hmax hlt =>
    rw [hmin, hmax]
    exact dif_neg (UInt64.not_le.2 hlt)

theorem readable_or_firstFault (range : QuantityRange) (dimension : String) :
    range.Readable dimension ∨ ∃ fault, range.FirstFault dimension fault := by
  cases hmin : Quantity.parse dimension range.min with
  | error error => exact .inr ⟨_, .min hmin⟩
  | ok least =>
    cases hmax : Quantity.parse dimension range.max with
    | error error => exact .inr ⟨_, .max hmin hmax⟩
    | ok greatest =>
      by_cases hle : least ≤ greatest
      · exact .inl ⟨⟨least, greatest, hle⟩, hmin, hmax⟩
      · exact .inr ⟨_, .empty hmin hmax (UInt64.not_le.1 hle)⟩

end QuantityRange

/-! ### Configurations -/

namespace RandomConfig

/-- There is a priority to draw, and there are amounts to draw for cpu and for memory. -/
structure Drawable (config : RandomConfig) : Prop where
  priorities_ne : config.priorities ≠ []
  cpu : config.cpu.Readable Dimension.cpu
  memory : config.memory.Readable Dimension.memory

/-- The first fault: no priority, then that of the range for cpu, then that of the range for
memory. -/
inductive FirstFault (config : RandomConfig) : RandomConfigError → Prop
  | priorities (eq_nil : config.priorities = []) : FirstFault config .noPriority
  | cpu {fault : RandomConfigError} (priorities_ne : config.priorities ≠ [])
      (faulty : config.cpu.FirstFault Dimension.cpu fault) : FirstFault config fault
  | memory {fault : RandomConfigError} (priorities_ne : config.priorities ≠ [])
      (cpu : config.cpu.Readable Dimension.cpu)
      (faulty : config.memory.FirstFault Dimension.memory fault) : FirstFault config fault

/-- The source is the configured one, before its first pod. -/
structure Describes {γ : Type} (config : RandomConfig) (source : RandomSource γ) : Prop where
  podsPerTick_eq : source.podsPerTick = config.podsPerTick
  namePrefix_eq : source.namePrefix = config.namePrefix
  cpu : config.cpu.ReadsAs Dimension.cpu source.cpu
  memory : config.memory.ReadsAs Dimension.memory source.memory
  priorities_eq : source.priorities = config.priorities
  submitted_eq : source.submitted = 0

/-- A pod that may be submitted: it demands cpu and memory and nothing else, both between the
amounts that the ends of the range write, and has one of the priorities. -/
structure Permits (config : RandomConfig) (pod : Pod) : Prop where
  dimensions_eq : pod.demand.dimensions = [Dimension.cpu, Dimension.memory]
  cpu : ∃ amounts, config.cpu.ReadsAs Dimension.cpu amounts ∧
    amounts.least ≤ pod.demand.get Dimension.cpu ∧ pod.demand.get Dimension.cpu ≤ amounts.greatest
  memory : ∃ amounts, config.memory.ReadsAs Dimension.memory amounts ∧
    amounts.least ≤ pod.demand.get Dimension.memory ∧
    pod.demand.get Dimension.memory ≤ amounts.greatest
  priority_mem : pod.priority ∈ config.priorities

end RandomConfig

namespace RandomSource

open RandomConfig

variable {config : RandomConfig} {entropy : UInt64}

theorem ofConfig_of_firstFault {fault : RandomConfigError} (h : config.FirstFault fault) :
    (ofConfig config entropy).2 = .error fault := by
  unfold ofConfig
  cases h with
  | priorities hnil =>
    rw [dif_pos hnil]
  | cpu hne hfaulty =>
    rw [dif_neg hne]
    simp only [QuantityRange.parse_of_firstFault hfaulty]
    rfl
  | memory hne hcpu hfaulty =>
    obtain ⟨amounts, hread⟩ := hcpu
    rw [dif_neg hne]
    simp only [QuantityRange.parse_of_readsAs hread, QuantityRange.parse_of_firstFault hfaulty]
    rfl

theorem exists_ofConfig_of_drawable (entropy : UInt64) (h : config.Drawable) :
    ∃ source, (ofConfig config entropy).2 = .ok source ∧ config.Describes source := by
  obtain ⟨hne, ⟨cpu, hcpu⟩, ⟨memory, hmemory⟩⟩ := h
  unfold ofConfig
  rw [dif_neg hne]
  simp only [QuantityRange.parse_of_readsAs hcpu, QuantityRange.parse_of_readsAs hmemory]
  exact ⟨_, rfl, rfl, rfl, hcpu, hmemory, rfl, rfl⟩

theorem drawable_or_firstFault (config : RandomConfig) :
    config.Drawable ∨ ∃ fault, config.FirstFault fault := by
  by_cases hnil : config.priorities = []
  · exact .inr ⟨_, .priorities hnil⟩
  · rcases config.cpu.readable_or_firstFault Dimension.cpu with hcpu | ⟨fault, hfault⟩
    · rcases config.memory.readable_or_firstFault Dimension.memory with hmemory | ⟨fault, hfault⟩
      · exact .inl ⟨hnil, hcpu, hmemory⟩
      · exact .inr ⟨fault, .memory hnil hcpu hfault⟩
    · exact .inr ⟨fault, .cpu hnil hfault⟩

/-- A configuration gives the source that it describes, or its first fault. -/
theorem ofConfig_cases (config : RandomConfig) (entropy : UInt64) :
    (∃ source, (ofConfig config entropy).2 = .ok source ∧ config.Drawable ∧
      config.Describes source) ∨
    ∃ fault, (ofConfig config entropy).2 = .error fault ∧ config.FirstFault fault := by
  rcases drawable_or_firstFault config with hdrawable | ⟨fault, hfault⟩
  · obtain ⟨source, hsource, hdescribes⟩ := exists_ofConfig_of_drawable entropy hdrawable
    exact .inl ⟨source, hsource, hdrawable, hdescribes⟩
  · exact .inr ⟨fault, ofConfig_of_firstFault hfault, hfault⟩

theorem exists_ofConfig_iff :
    (∃ source, (ofConfig config entropy).2 = .ok source) ↔ config.Drawable := by
  constructor
  · rintro ⟨source, hsource⟩
    rcases ofConfig_cases config entropy with ⟨-, -, hdrawable, -⟩ | ⟨fault, hfault, -⟩
    · exact hdrawable
    · cases hsource.symm.trans hfault
  · intro h
    obtain ⟨source, hsource, -⟩ := exists_ofConfig_of_drawable entropy h
    exact ⟨source, hsource⟩

theorem ofConfig_eq_error_iff {fault : RandomConfigError} :
    (ofConfig config entropy).2 = .error fault ↔ config.FirstFault fault := by
  refine ⟨fun h => ?_, ofConfig_of_firstFault⟩
  rcases ofConfig_cases config entropy with ⟨source, hsource, -⟩ | ⟨other, hother, hfirst⟩
  · cases hsource.symm.trans h
  · cases hother.symm.trans h
    exact hfirst

theorem describes_of_ofConfig {source : RandomSource WordStream}
    (h : (ofConfig config entropy).2 = .ok source) : config.Describes source := by
  rcases ofConfig_cases config entropy with ⟨other, hother, -, hdescribes⟩ | ⟨fault, hfault, -⟩
  · cases hother.symm.trans h
    exact hdescribes
  · cases hfault.symm.trans h

end RandomSource

end ClusterSim
