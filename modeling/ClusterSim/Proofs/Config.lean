import ClusterSim.Config
import ClusterSim.Proofs.Quantity.Capacity
import ClusterSim.Proofs.Time.Start

/-!
# The simulation of a configuration

A configuration is accepted if its ticks have a length, its level is known, and its nodes have names
that differ (`validate_eq_ok_iff`). `Config.ComesTo` lists what can come of it then: the simulation
that it describes, or the first of the faults that are left, which are a refused quantity, an
unreadable start and ticks that are too long. Main statement: `configured_simulation`.
-/

namespace ClusterSim

/-! ### Nodes -/

/-- The node is the configured one: empty, under the configured name, with the written capacity. -/
structure NodeConfig.Describes (configured : NodeConfig) (node : Node) : Prop where
  name_eq : node.name = configured.name
  pods_eq : node.pods = []
  allocated_eq : node.allocated = .empty
  capacity : node.capacity.ReadFrom configured.capacity

theorem NodeConfig.of_build_eq_ok {configured : NodeConfig} {node : Node}
    (h : configured.build = .ok node) : configured.Describes node := by
  unfold NodeConfig.build at h
  rcases Resources.parse_cases configured.capacity with ⟨r, hparse, hread⟩ | ⟨_, hparse, -⟩
  · rw [hparse] at h
    cases h
    exact ⟨rfl, rfl, rfl, hread⟩
  · rw [hparse] at h
    cases h

theorem NodeConfig.of_build_eq_error {configured : NodeConfig} {fault : ConfigError}
    (h : configured.build = .error fault) :
    ∃ error, fault = .quantity configured.name error ∧
      Resources.FirstRefused configured.capacity error := by
  unfold NodeConfig.build at h
  rcases Resources.parse_cases configured.capacity with ⟨_, hparse, -⟩ | ⟨error, hparse, hfirst⟩
  · rw [hparse] at h
    cases h
  · rw [hparse] at h
    cases h
    exact ⟨error, rfl, hfirst⟩

namespace Config

variable {config : Config} {now : Instant} {σ : Type}

/-- All quantities of all nodes can be read. -/
def AllReadable (config : Config) : Prop :=
  ∀ node ∈ config.nodes, Resources.AllReadable node.capacity

/-- The error is that of the first node with a refused quantity, and of the smallest dimension of
such a quantity there. -/
def FirstRefused (config : Config) (name : String) (error : QuantityError) : Prop :=
  ∃ before node after, config.nodes = before ++ node :: after ∧
    (∀ other ∈ before, Resources.AllReadable other.capacity) ∧
    node.name = name ∧ Resources.FirstRefused node.capacity error

theorem FirstRefused.not_allReadable {name : String} {error : QuantityError}
    (h : config.FirstRefused name error) : ¬ config.AllReadable := by
  intro hall
  obtain ⟨before, node, after, hsplit, -, -, hfirst⟩ := h
  apply hfirst.not_allReadable
  apply hall
  rw [hsplit]
  exact List.mem_append_right _ List.mem_cons_self

theorem buildNodes_cases (config : Config) :
    (∃ nodes, config.buildNodes = .ok nodes ∧ config.AllReadable ∧
      List.Forall₂ NodeConfig.Describes config.nodes nodes) ∨
    ∃ name error, config.buildNodes = .error (.quantity name error) ∧
      config.FirstRefused name error := by
  unfold buildNodes
  rcases mapM_cases NodeConfig.build config.nodes with
    ⟨nodes, hnodes, hall⟩ | ⟨before, node, after, fault, hsplit, hbefore, hnode, hfault⟩
  · refine .inl ⟨nodes, hnodes, fun configured hmem => ?_,
      hall.imp fun _ _ => NodeConfig.of_build_eq_ok⟩
    obtain ⟨node, -, hbuild⟩ := exists_of_forall₂ hall hmem
    exact (NodeConfig.of_build_eq_ok hbuild).capacity.allReadable
  · obtain ⟨error, rfl, hfirst⟩ := NodeConfig.of_build_eq_error hnode
    refine .inr ⟨node.name, error, hfault, before, node, after, hsplit, fun other hmem => ?_, rfl,
      hfirst⟩
    obtain ⟨built, hbuild⟩ := hbefore other hmem
    exact (NodeConfig.of_build_eq_ok hbuild).capacity.allReadable

/-! ### Acceptance -/

/-- Nodes are accepted if their names are not blank, not seen before, and different. -/
theorem nodeFault?_eq_none_iff {seen : List String} {nodes : List NodeConfig} :
    nodeFault? seen nodes = none ↔
      (∀ node ∈ nodes, ¬ Text.allBlank node.name ∧ node.name ∉ seen) ∧
      (nodes.map (·.name)).Nodup := by
  induction nodes generalizing seen with
  | nil => simp [nodeFault?]
  | cons node rest ih =>
    unfold nodeFault?
    by_cases hblank : Text.allBlank node.name
    · simp [hblank]
    · by_cases hseen : node.name ∈ seen
      · simp [hblank, hseen]
      · -- the rest is looked at with one more name seen, which must not come back in it
        rw [if_neg hblank, if_neg (by simpa using hseen), ih]
        simp only [List.mem_cons, not_or, forall_eq_or_imp, List.map_cons, List.nodup_cons,
          List.mem_map, not_exists, not_and]
        grind

theorem tick_eq_zero_iff : config.tick = 0 ↔ ¬ 0 < config.tick.toNat := by
  rw [← UInt64.toNat_inj, UInt64.toNat_zero, Nat.not_lt, Nat.le_zero]

theorem isNone_ofKeyword?_iff {s : String} :
    (Level.ofKeyword? s).isNone ↔ ¬ ∃ level : Level, level.keyword = s := by
  rw [Level.ofKeyword?, Option.isNone_iff_eq_none, List.find?_eq_none, not_exists]
  constructor
  · intro h level
    have hmem : level ∈ Level.all := by cases level <;> decide
    simpa using h level hmem
  · intro h level _
    simpa using h level

theorem validate_eq_ok_iff :
    config.validate = .ok config ↔
      0 < config.tick.toNat ∧ (∃ level : Level, level.keyword = config.level) ∧
      (∀ node ∈ config.nodes, ¬ Text.allBlank node.name) ∧
      (config.nodes.map (·.name)).Nodup := by
  have hvalid : config.validate = .ok config ↔ config.fault? = none := by
    unfold validate
    cases config.fault? <;> simp
  rw [hvalid, fault?]
  by_cases hzero : config.tick = 0
  · simp [hzero]
  · have hpos : 0 < config.tick.toNat := not_not.1 (mt tick_eq_zero_iff.2 hzero)
    by_cases hlevel : ∃ level : Level, level.keyword = config.level
    · have hknown : ¬ (Level.ofKeyword? config.level).isNone := fun h =>
        isNone_ofKeyword?_iff.1 h hlevel
      rw [if_neg hzero, if_neg hknown, nodeFault?_eq_none_iff]
      simp [hpos, hlevel]
    · rw [if_neg hzero, if_pos (isNone_ofKeyword?_iff.2 hlevel)]
      simp [hlevel]

/-! ### Ticks and the start of the clock -/

/-- The seconds of the longest ticks. -/
def longestTick : ℕ := 9223372036854775

theorem exists_tickSpan (hpos : 0 < config.tick.toNat) (h : config.tick.toNat ≤ longestTick) :
    ∃ step, config.tickSpan = .ok step ∧ step.nanos = config.tick.toNat * nanosPerSecond := by
  unfold longestTick at h
  have hrange : -(9223372036854775807 * 1000000) ≤ (config.tick.toNat : ℤ) * nanosPerSecond ∧
      (config.tick.toNat : ℤ) * nanosPerSecond ≤ 9223372036854775807 * 1000000 := by
    unfold nanosPerSecond
    omega
  have hspan : Delta.ofSeconds? config.tick.toNat =
      some ⟨config.tick.toNat * nanosPerSecond, hrange.1, hrange.2⟩ := by
    unfold Delta.ofSeconds? Delta.ofNanos?
    rw [dif_pos hrange]
  refine ⟨⟨config.tick.toNat * nanosPerSecond, hrange.1, hrange.2⟩, ?_, rfl⟩
  rw [tickSpan, if_neg (mt tick_eq_zero_iff.1 (not_not.2 hpos)), hspan]

theorem tickSpan_of_longestTick_lt (h : longestTick < config.tick.toNat) :
    config.tickSpan = .error (.invalid (.tickOutOfRange config.tick)) := by
  unfold longestTick at h
  have hspan : Delta.ofSeconds? config.tick.toNat = none := by
    unfold Delta.ofSeconds? Delta.ofNanos? nanosPerSecond
    rw [dif_neg]
    omega
  rw [tickSpan, hspan]
  exact ite_self _

/-- The start is blank, or there is a time in it that exists. -/
def StartReadable (config : Config) : Prop :=
  Text.allBlank config.startClock ∨
    ∃ text : TimeText, text.StandsIn config.startClock ∧ text.Exists

/-- The clock starts at the present if nothing is written, and else at the instant that is named by
the time written. -/
def StartsAt (config : Config) (now start : Instant) : Prop :=
  if Text.allBlank config.startClock then start = now
  else ∃ text : TimeText, text.StandsIn config.startClock ∧ text.Names start

/-- The start is neither blank nor a time that exists, and the fault is the one found in it. -/
structure StartRefused (config : Config) (fault : TimeFault) : Prop where
  not_startReadable : ¬ config.StartReadable
  fault_eq : Instant.parseStrict (Text.trim config.startClock) = .error fault

theorem clockStart_cases (config : Config) (now : Instant) :
    (∃ start, config.clockStart = .ok start ∧ config.StartReadable ∧
      config.StartsAt now (start.resolve now)) ∨
    ∃ fault, config.clockStart = .error (.clock (.invalidStart config.startClock fault)) ∧
      config.StartRefused fault := by
  unfold clockStart StartsAt
  rcases ClockStart.readable_or_refused config.startClock with
    ⟨hblank, hparse⟩ | ⟨text, t, hstands, hnames, hparse⟩ |
      ⟨fault, hstrict, hwritten, hnone, hparse⟩
  · rw [hparse]
    refine .inl ⟨.present, rfl, .inl hblank, ?_⟩
    rw [if_pos hblank]
    rfl
  · rw [hparse]
    refine .inl ⟨.at t, rfl, .inr ⟨text, hstands, hnames.exist⟩, ?_⟩
    rw [if_neg hstands.not_allBlank]
    exact ⟨text, hstands, hnames⟩
  · rw [hparse]
    refine .inr ⟨fault, rfl, ?_, hstrict⟩
    rintro (hblank | ⟨text, hstands, hexists⟩)
    · exact hwritten hblank
    · exact hnone text hstands hexists

/-! ### The simulation -/

/-- The simulation has not started, and has what is configured: the nodes by their names in
ascending order, the clock, the strategy and the limit. -/
structure Describes (config : Config) (now : Instant) (sim : Simulation σ) : Prop where
  names_perm : sim.cluster.nodes.names.Perm (config.nodes.map (·.name))
  names_ascending : sim.cluster.nodes.names.Pairwise (· < ·)
  nodes : ∀ configured ∈ config.nodes, ∃ node,
    sim.cluster.nodes.get? configured.name = some node ∧ configured.Describes node
  queue_eq : sim.cluster.queue = .empty
  strategy_eq : sim.cluster.strategy = config.strategy
  sources_eq : sim.sources = []
  supply_eq : sim.supply = .fresh
  start : config.StartsAt now sim.start
  step_pos : 0 < sim.step.nanos
  step_eq : sim.step.nanos = config.tick.toNat * nanosPerSecond
  maxTicks_eq : sim.maxTicks = config.maxTicks
  status_eq : sim.status = .idle

/-- What a configuration with ticks of some length and nodes of different names comes to; each error
is the first, as all that is read before can be read. -/
inductive ComesTo (config : Config) (now : Instant) : Except ConfigError (Simulation σ) → Prop
  | simulation {sim : Simulation σ} (readable : config.AllReadable)
      (startReadable : config.StartReadable) (inRange : config.tick.toNat ≤ longestTick)
      (describes : config.Describes now sim) : ComesTo config now (.ok sim)
  | quantity {name : String} {error : QuantityError} (refused : config.FirstRefused name error) :
      ComesTo config now (.error (.quantity name error))
  | clock {fault : TimeFault} (readable : config.AllReadable)
      (refused : config.StartRefused fault) :
      ComesTo config now (.error (.clock (.invalidStart config.startClock fault)))
  | tick (readable : config.AllReadable) (startReadable : config.StartReadable)
      (tooLong : longestTick < config.tick.toNat) :
      ComesTo config now (.error (.invalid (.tickOutOfRange config.tick)))

theorem ComesTo.exists_ok_iff {result : Except ConfigError (Simulation σ)}
    (h : config.ComesTo now result) :
    (∃ sim, result = .ok sim) ↔
      config.AllReadable ∧ config.StartReadable ∧ config.tick.toNat ≤ longestTick := by
  cases h with
  | simulation readable startReadable inRange _ =>
    exact ⟨fun _ => ⟨readable, startReadable, inRange⟩, fun _ => ⟨_, rfl⟩⟩
  | quantity refused => simp [refused.not_allReadable]
  | clock _ refused => simp [refused.not_startReadable]
  | tick _ _ tooLong => simp [tooLong]

theorem map_name_of_forall₂ {nodes : List Node}
    (h : List.Forall₂ NodeConfig.Describes config.nodes nodes) :
    (nodes.map fun node => (node.name, node)).map (·.1) = config.nodes.map (·.name) := by
  rw [List.map_map]
  exact (map_eq_map_of_forall₂ (fun _ _ hdescribes => hdescribes.name_eq.symm) h).symm

/-- Of nodes with different names none replaces another. -/
theorem names_new_perm {nodes : List Node} (strategy : Strategy)
    (h : List.Forall₂ NodeConfig.Describes config.nodes nodes)
    (hnodup : (config.nodes.map (·.name)).Nodup) :
    (Cluster.new nodes strategy).nodes.names.Perm (config.nodes.map (·.name)) := by
  rw [← map_name_of_forall₂ h] at hnodup ⊢
  exact NameMap.names_ofList_perm hnodup

theorem exists_get?_new {nodes : List Node} (strategy : Strategy)
    (h : List.Forall₂ NodeConfig.Describes config.nodes nodes)
    (hnodup : (config.nodes.map (·.name)).Nodup) {configured : NodeConfig}
    (hmem : configured ∈ config.nodes) :
    ∃ node, (Cluster.new nodes strategy).nodes.get? configured.name = some node ∧
      configured.Describes node := by
  obtain ⟨node, hnode, hdescribes⟩ := exists_of_forall₂ h hmem
  rw [← map_name_of_forall₂ h] at hnodup
  refine ⟨node, NameMap.get?_ofList_of_mem hnodup ?_, hdescribes⟩
  rw [← hdescribes.name_eq]
  exact List.mem_map_of_mem hnode

theorem comesTo_simulation (config : Config) (now : Instant) (hpos : 0 < config.tick.toNat)
    (hnodup : (config.nodes.map (·.name)).Nodup) :
    config.ComesTo now ((config.simulation now).2 : Except ConfigError (Simulation σ)) := by
  unfold simulation
  -- the cases come in the order of reading, so that each knows what has been read before
  rcases config.buildNodes_cases with ⟨nodes, hbuilt, hreadable, hnodes⟩ | ⟨name, error, hbuilt, h⟩
  · rw [hbuilt]
    rcases config.clockStart_cases now with
      ⟨start, hstart, hstartReadable, hstartsAt⟩ | ⟨fault, hstart, hrefused⟩
    · rw [hstart]
      rcases Nat.lt_or_ge longestTick config.tick.toNat with hlong | hinRange
      · rw [tickSpan_of_longestTick_lt hlong]
        exact .tick hreadable hstartReadable hlong
      · obtain ⟨step, hstep, hnanos⟩ := exists_tickSpan hpos hinRange
        rw [hstep]
        refine .simulation hreadable hstartReadable hinRange
          { names_perm := names_new_perm _ hnodes hnodup
            names_ascending := List.pairwise_map.2 (NameMap.ascending _)
            nodes := fun _ => exists_get?_new _ hnodes hnodup
            queue_eq := rfl
            strategy_eq := rfl
            sources_eq := rfl
            supply_eq := rfl
            start := hstartsAt
            step_pos := ?_
            step_eq := hnanos
            maxTicks_eq := rfl
            status_eq := rfl }
        show 0 < step.nanos
        rw [hnanos]
        unfold nanosPerSecond
        omega
    · rw [hstart]
      exact .clock hreadable hrefused
  · rw [hbuilt]
    exact .quantity h

end Config

open Config in
/-- An accepted configuration gives the simulation that it describes exactly if all its quantities
can be read, its start is blank or a time that exists, with white space around it or not, and its
ticks are not too long. Else it gives the error that comes first: the quantity of the smallest
dimension of the first node that has a refused one, then the start, then the ticks. -/
theorem configured_simulation {σ : Type} (config : Config) (now : Instant) :
    (config.validate = .ok config ↔
      0 < config.tick.toNat ∧ (∃ level : Level, level.keyword = config.level) ∧
      (∀ node ∈ config.nodes, ¬ Text.allBlank node.name) ∧
      (config.nodes.map (·.name)).Nodup) ∧
    (config.validate = .ok config →
      ((∃ sim : Simulation σ, (config.simulation now).2 = .ok sim) ↔
        config.AllReadable ∧ config.StartReadable ∧ config.tick.toNat ≤ longestTick) ∧
      config.ComesTo now ((config.simulation now).2 : Except ConfigError (Simulation σ))) := by
  refine ⟨validate_eq_ok_iff, fun haccepted => ?_⟩
  obtain ⟨hpos, -, -, hnodup⟩ := validate_eq_ok_iff.1 haccepted
  have h := config.comesTo_simulation (σ := σ) now hpos hnodup
  exact ⟨h.exists_ok_iff, h⟩

/-- The longest ticks, a start between blanks, and nodes in descending order. -/
def longTicks : Config :=
  { tick := 9223372036854775
    startClock := " 2024-02-29T23:59:59+01:00 "
    level := "trace"
    strategy := .mostAllocated
    maxTicks := 3
    nodes := [⟨"b", .ofList [("memory", "1Gi"), ("cpu", "250m")]⟩, ⟨"a", .empty⟩] }

/-- The same with ticks that are too long, a start that is none, and two refused quantities. -/
def manyFaults : Config :=
  { longTicks with
    tick := 9223372036854776
    startClock := "noon"
    nodes := [⟨"b", .ofList [("memory", "1Gi"), ("cpu", "250m")]⟩,
      ⟨"a", .ofList [("memory", "1,5"), ("cpu", "-2")]⟩] }

/-- The same without the refused quantities. -/
def laterFaults : Config := { manyFaults with nodes := longTicks.nodes }

/-- The same with a start that can be read, so that only the ticks are left. -/
def lastFault : Config := { laterFaults with startClock := longTicks.startClock }

/-- Each of the faults is the error where those before it are not there. -/
theorem configured_simulation_long_ticks :
    longTicks.validate = .ok longTicks ∧ manyFaults.validate = .ok manyFaults ∧
    longTicks.AllReadable ∧ longTicks.StartReadable ∧
    manyFaults.FirstRefused "a" ⟨.invalid, "cpu", "-2"⟩ ∧
    (laterFaults.simulation default).2 =
      (.error (.clock (.invalidStart "noon" .tooShort)) : Except ConfigError (Simulation Unit)) ∧
    laterFaults.AllReadable ∧ laterFaults.StartRefused .tooShort ∧
    (lastFault.simulation default).2 = (.error (.invalid (.tickOutOfRange 9223372036854776)) :
      Except ConfigError (Simulation Unit)) ∧
    lastFault.StartReadable ∧ Config.longestTick < lastFault.tick.toNat := by
  have hlong : longTicks.validate = .ok longTicks := by decide +kernel
  have hmany : manyFaults.validate = .ok manyFaults := by decide +kernel
  have hlater : laterFaults.validate = .ok laterFaults := by decide +kernel
  have hlast : lastFault.validate = .ok lastFault := by decide +kernel
  have hbuilt : ∃ sim : Simulation Unit, (longTicks.simulation default).2 = .ok sim := ⟨_, rfl⟩
  have hquantity : ((manyFaults.simulation default).2 : Except ConfigError (Simulation Unit)) =
      .error (.quantity "a" ⟨.invalid, "cpu", "-2"⟩) := rfl
  have hclock : ((laterFaults.simulation default).2 : Except ConfigError (Simulation Unit)) =
      .error (.clock (.invalidStart laterFaults.startClock .tooShort)) := rfl
  have htick : ((lastFault.simulation default).2 : Except ConfigError (Simulation Unit)) =
      .error (.invalid (.tickOutOfRange lastFault.tick)) := rfl
  obtain ⟨hreadable, hstart, -⟩ := ((configured_simulation longTicks default).2 hlong).1.1 hbuilt
  have hfirst : manyFaults.FirstRefused "a" ⟨.invalid, "cpu", "-2"⟩ := by
    have hcomes := ((configured_simulation (σ := Unit) manyFaults default).2 hmany).2
    rw [hquantity] at hcomes
    cases hcomes with
    | quantity refused => exact refused
  have hrefused : laterFaults.AllReadable ∧ laterFaults.StartRefused .tooShort := by
    have hcomes := ((configured_simulation (σ := Unit) laterFaults default).2 hlater).2
    rw [hclock] at hcomes
    cases hcomes with
    | clock readable refused => exact ⟨readable, refused⟩
  have htooLong : lastFault.StartReadable ∧ Config.longestTick < lastFault.tick.toNat := by
    have hcomes := ((configured_simulation (σ := Unit) lastFault default).2 hlast).2
    rw [htick] at hcomes
    cases hcomes with
    | tick _ startReadable tooLong => exact ⟨startReadable, tooLong⟩
  exact ⟨hlong, hmany, hreadable, hstart, hfirst, hclock, hrefused.1, hrefused.2, htick,
    htooLong.1, htooLong.2⟩

end ClusterSim
