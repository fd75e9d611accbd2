import ClusterSim.Export
import ClusterSim.Proofs.NameMap
import ClusterSim.Proofs.PodId
import ClusterSim.Proofs.Time.Lenient

/-!
# The exported state is read back

For every type of the exported state, what is written of a value is read as that value. So a value
that has been read, in whatever form it was given, is written in one form from then on. Main
statement: `export_faithful`.
-/

namespace ClusterSim

/-- What is written of a value is read as that value, and what has been read is written in a form
that is read and written without change. -/
structure Json.Faithful {α : Type} (write : α → Json) (read : Json → Option α) : Prop where
  read_write : ∀ value, read (write value) = some value
  stable : ∀ json value, read json = some value →
    ∃ again, read (write value) = some again ∧ write again = write value

namespace Json

theorem Faithful.of_read_write {α : Type} {write : α → Json} {read : Json → Option α}
    (h : ∀ value, read (write value) = some value) : Faithful write read where
  read_write := h
  stable _ value _ := ⟨value, h value, rfl⟩

/-! ### Numbers and arrays -/

theorem word64?_ofWord64 (n : UInt64) : word64? (.ofWord64 n) = some n := by
  have hlt := n.toNat_lt
  have hrange : (0 : Int) ≤ n.toNat ∧ (n.toNat : Int) < UInt64.size := by
    unfold UInt64.size
    omega
  rw [ofWord64, word64?, if_pos hrange, Int.toNat_natCast, UInt64.ofNat_toNat]

theorem word32?_ofWord32 (n : UInt32) : word32? (.ofWord32 n) = some n := by
  have hlt := n.toNat_lt
  have hrange : (0 : Int) ≤ n.toNat ∧ (n.toNat : Int) < UInt32.size := by
    unfold UInt32.size
    omega
  rw [ofWord32, word32?, if_pos hrange, Int.toNat_natCast, UInt32.ofNat_toNat]

theorem int32?_ofInt32 (n : Int32) : int32? (.ofInt32 n) = some n := by
  have hlow : -2147483648 ≤ n.toInt := n.minValue_le_toInt
  have hhigh := n.toInt_lt
  rw [ofInt32, int32?, if_pos (by omega), Int32.ofInt_toInt]

theorem mapM_map_of_read {α β : Type} (write : α → β) (read : β → Option α)
    (h : ∀ value, read (write value) = some value) (values : List α) :
    (values.map write).mapM read = some values := by
  induction values with
  | nil => rfl
  | cons value rest ih =>
    rw [List.map_cons, List.mapM_cons, h, ih]
    rfl

theorem list?_map {α : Type} {write : α → Json} {read : Json → Option α}
    (h : ∀ value, read (write value) = some value) (values : List α) :
    list? read (.array (values.map write)) = some values := mapM_map_of_read write read h values

/-! ### Fields -/

theorem required_some {α : Type} {read : Json → Option α} {json : Json} {value : α}
    (h : read json = some value) : required read (some json) = some value := h

theorem optional_some {α : Type} {read : Json → Option α} {json : Json} {value : α}
    (hnull : json ≠ .null) (h : read json = some value) :
    optional read (some json) = some (some value) := by
  unfold optional
  split
  · rename_i hnone
    cases hnone
  · rename_i heq
    exact absurd (Option.some.inj heq) hnull
  · rename_i heq
    obtain rfl := Option.some.inj heq
    rw [h]
    rfl

theorem required_text (content : String) :
    required text? (some (.text content)) = some content := rfl

end Json

/-! ### The types of the state -/

theorem Instant.ofJson?_toJson (t : Instant) : ofJson? t.toJson = some t := by
  simp only [ofJson?, toJson, Json.text?, Option.bind_eq_bind, Option.bind_some,
    parseLenient_text, Except.toOption]

theorem PodId.ofJson?_toJson (id : PodId) : ofJson? id.toJson = some id := by
  simp only [ofJson?, toJson, Json.text?, Option.bind_eq_bind, Option.bind_some, parse?_text]

theorem Resources.ofJson?_toJson (r : Resources) : ofJson? r.toJson = some r := by
  have hmembers : (r.toList.map fun entry => (entry.1, Json.ofWord64 entry.2)).mapM
      (fun member : String × Json =>
        (member.2.word64?).map fun amount => (member.1, amount)) = some r.toList := by
    refine Json.mapM_map_of_read _ _ (fun entry => ?_) _
    rw [Json.word64?_ofWord64]
    rfl
  rw [toJson, ofJson?, hmembers, Option.map_some, ofList, toList, NameMap.ofList_entries]

theorem PodStatus.ofJson?_toJson (status : PodStatus) : ofJson? status.toJson = some status := by
  cases status with
  | pending => rfl
  | bound node since =>
    have hphase : phase? (PodStatus.bound node since).toJson = some "bound" := rfl
    have hfields : (PodStatus.bound node since).toJson.fields? ["phase", "node", "at"] =
        some [some (.text "bound"), some (.text node), some since.toJson] := rfl
    unfold ofJson?
    simp only [hphase, hfields, Option.bind_eq_bind, Option.bind_some, Json.required_text,
      Json.required_some (Instant.ofJson?_toJson since)]
    rfl

/-! ### Records

A record is read from any value with these fields, whatever else it has and in whatever order. -/

theorem Pod.ofJson?_of_fields {pod : Pod} {json id name demand priority createdAt status : Json}
    (hfields : json.fields? ["id", "name", "demand", "priority", "created_at", "status"] =
      some [some id, some name, some demand, some priority, some createdAt, some status])
    (hid : PodId.ofJson? id = some pod.id) (hname : name.text? = some pod.name)
    (hdemand : Resources.ofJson? demand = some pod.demand)
    (hpriority : priority.int32? = some pod.priority)
    (hcreated : Json.optional Instant.ofJson? (some createdAt) = some pod.createdAt)
    (hstatus : PodStatus.ofJson? status = some pod.status) : ofJson? json = some pod := by
  unfold ofJson?
  simp only [hfields, Option.bind_eq_bind, Option.bind_some, Json.required_some hid,
    Json.required_some hname, Json.required_some hdemand, Json.required_some hpriority, hcreated,
    Json.required_some hstatus]
  rfl

theorem NodeSnapshot.ofJson?_of_fields {snapshot : NodeSnapshot}
    {json name capacity allocated available pods takenAt : Json}
    (hfields : json.fields? ["name", "capacity", "allocated", "available", "pods", "taken_at"] =
      some [some name, some capacity, some allocated, some available, some pods, some takenAt])
    (hname : name.text? = some snapshot.name)
    (hcapacity : Resources.ofJson? capacity = some snapshot.capacity)
    (hallocated : Resources.ofJson? allocated = some snapshot.allocated)
    (havailable : Resources.ofJson? available = some snapshot.available)
    (hpods : Json.list? PodId.ofJson? pods = some snapshot.pods)
    (htaken : Instant.ofJson? takenAt = some snapshot.takenAt) : ofJson? json = some snapshot := by
  unfold ofJson?
  simp only [hfields, Option.bind_eq_bind, Option.bind_some, Json.required_some hname,
    Json.required_some hcapacity, Json.required_some hallocated, Json.required_some havailable,
    Json.required_some hpods, Json.required_some htaken]
  rfl

theorem QueueEntry.ofJson?_of_fields {entry : QueueEntry}
    {json pod name priority arrival requeues : Json}
    (hfields : json.fields? ["pod", "name", "priority", "arrival", "requeues"] =
      some [some pod, some name, some priority, some arrival, some requeues])
    (hpod : PodId.ofJson? pod = some entry.pod) (hname : name.text? = some entry.name)
    (hpriority : priority.int32? = some entry.priority)
    (harrival : arrival.word64? = some entry.arrival)
    (hrequeues : requeues.word32? = some entry.requeues) : ofJson? json = some entry := by
  unfold ofJson?
  simp only [hfields, Option.bind_eq_bind, Option.bind_some, Json.required_some hpod,
    Json.required_some hname, Json.required_some hpriority, Json.required_some harrival,
    Json.required_some hrequeues]
  rfl

theorem ClusterMetrics.ofJson?_of_fields {metrics : ClusterMetrics}
    {json tick clock nodes pods queue : Json}
    (hfields : json.fields? ["tick", "clock", "nodes", "pods", "queue"] =
      some [some tick, some clock, some nodes, some pods, some queue])
    (htick : tick.word64? = some metrics.tick) (hclock : Instant.ofJson? clock = some metrics.clock)
    (hnodes : Json.list? NodeSnapshot.ofJson? nodes = some metrics.nodes)
    (hpods : Json.list? Pod.ofJson? pods = some metrics.pods)
    (hqueue : Json.list? QueueEntry.ofJson? queue = some metrics.queue) :
    ofJson? json = some metrics := by
  unfold ofJson?
  simp only [hfields, Option.bind_eq_bind, Option.bind_some, Json.required_some htick,
    Json.required_some hclock, Json.required_some hnodes, Json.required_some hpods,
    Json.required_some hqueue]
  rfl

/-- A time of submission that is missing is written as null, which no instant is. -/
theorem Pod.optional_createdAt (pod : Pod) :
    Json.optional Instant.ofJson? (some (match pod.createdAt with
      | some t => t.toJson
      | none => .null)) = some pod.createdAt := by
  cases pod.createdAt with
  | none => rfl
  | some t => exact Json.optional_some (by rintro ⟨⟩) t.ofJson?_toJson

theorem Pod.ofJson?_toJson (pod : Pod) : ofJson? pod.toJson = some pod :=
  ofJson?_of_fields rfl pod.id.ofJson?_toJson rfl pod.demand.ofJson?_toJson
    (Json.int32?_ofInt32 pod.priority) pod.optional_createdAt pod.status.ofJson?_toJson

theorem NodeSnapshot.ofJson?_toJson (snapshot : NodeSnapshot) :
    ofJson? snapshot.toJson = some snapshot :=
  ofJson?_of_fields rfl rfl snapshot.capacity.ofJson?_toJson snapshot.allocated.ofJson?_toJson
    snapshot.available.ofJson?_toJson (Json.list?_map PodId.ofJson?_toJson snapshot.pods)
    snapshot.takenAt.ofJson?_toJson

theorem QueueEntry.ofJson?_toJson (entry : QueueEntry) : ofJson? entry.toJson = some entry :=
  ofJson?_of_fields rfl entry.pod.ofJson?_toJson rfl (Json.int32?_ofInt32 entry.priority)
    (Json.word64?_ofWord64 entry.arrival) (Json.word32?_ofWord32 entry.requeues)

theorem ClusterMetrics.ofJson?_toJson (metrics : ClusterMetrics) :
    ofJson? metrics.toJson = some metrics :=
  ofJson?_of_fields rfl (Json.word64?_ofWord64 metrics.tick)
    metrics.clock.ofJson?_toJson
    (Json.list?_map NodeSnapshot.ofJson?_toJson metrics.nodes)
    (Json.list?_map Pod.ofJson?_toJson metrics.pods)
    (Json.list?_map QueueEntry.ofJson?_toJson metrics.queue)

open Json in
/-- Metrics, and with them every type of which they are made up, are read back from what is written
of them, with any texts, amounts, counts and priorities, with the time of submission or without it,
and at every instant; and what has been read is written in one form from then on. -/
theorem export_faithful :
    Faithful ClusterMetrics.toJson ClusterMetrics.ofJson? ∧
    Faithful NodeSnapshot.toJson NodeSnapshot.ofJson? ∧
    Faithful Pod.toJson Pod.ofJson? ∧
    Faithful PodStatus.toJson PodStatus.ofJson? ∧
    Faithful QueueEntry.toJson QueueEntry.ofJson? ∧
    Faithful Resources.toJson Resources.ofJson? ∧
    Faithful (fun name : NodeName => .text name) text? ∧
    Faithful PodId.toJson PodId.ofJson? ∧
    Faithful Instant.toJson Instant.ofJson? :=
  ⟨.of_read_write ClusterMetrics.ofJson?_toJson, .of_read_write NodeSnapshot.ofJson?_toJson,
    .of_read_write Pod.ofJson?_toJson, .of_read_write PodStatus.ofJson?_toJson,
    .of_read_write QueueEntry.ofJson?_toJson, .of_read_write Resources.ofJson?_toJson,
    .of_read_write fun _ => rfl, .of_read_write PodId.ofJson?_toJson,
    .of_read_write Instant.ofJson?_toJson⟩

/-- A pod that was not written in this form: a member that pods do not have, no time of submission,
and a leap second in the time of another zone. -/
example :
    Pod.ofJson? (.object
      [("status", .object [("at", .text "2017-01-01 08:59:60 +09:00"), ("node", .text "node-a"),
         ("phase", .text "bound")]),
       ("name", .text "web"), ("owner", .null), ("priority", .int (-5)),
       ("id", .text "urn:uuid:00000000-0000-0000-0000-0000000000FF"),
       ("demand", .object [("cpu", .int 300)])]) =
      (Instant.ofParts? 1483228799 1000000000).map fun since =>
        { id := ⟨255⟩, name := "web", demand := .ofList [("cpu", 300)], priority := -5,
          createdAt := none, status := .bound "node-a" since } := by
  decide +kernel

end ClusterSim
