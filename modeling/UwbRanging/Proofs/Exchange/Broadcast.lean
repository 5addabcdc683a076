import UwbRanging.Proofs.Exchange.History

namespace UwbRanging

namespace Exchange

variable {x : Exchange} {records : List TimestampRecord} {device : Eui64}

-- Of devices that report once each, every record is found.
theorem get?_reports_of_mem (hnodup : (records.map (·.device)).Nodup) {r : TimestampRecord} (hr : r ∈ records) :
    (records.foldl report x).get? r.device = some r := by
  have hmem : r ∈ records.filter fun other => other.device == r.device := List.mem_filter.mpr ⟨hr, by simp⟩
  rw [get?_reports]
  cases hlast : (records.filter fun other => other.device == r.device).getLast? with
  | none =>
    rw [List.getLast?_eq_none_iff.mp hlast] at hmem
    cases hmem
  | some last =>
    obtain ⟨hrecord, hdevice⟩ := List.mem_filter.mp (List.mem_of_getLast? hlast)
    rw [Option.some_or, List.inj_on_of_nodup_map hnodup hrecord hr (by simpa using hdevice)]

theorem get?_reports_of_notMem (h : device ∉ records.map (·.device)) :
    (records.foldl report x).get? device = x.get? device := by
  have hnone : (records.filter fun r => r.device == device) = [] := by
    refine List.filter_eq_nil_iff.mpr fun r hr hdevice => h (List.mem_map.mpr ⟨r, hr, by simpa using hdevice⟩)
  rw [get?_reports, hnone, List.getLast?_nil, Option.none_or]

theorem Ordered.nodup_devices (hx : x.Ordered) : (x.reports.map (·.device)).Nodup := by
  refine List.pairwise_map.mpr (hx.imp fun {a b} hlt => ?_)
  intro heq
  rw [heq] at hlt
  exact UInt64.lt_irrefl _ hlt

theorem mem_devices_iff : device ∈ x.reports.map (·.device) ↔ (x.get? device).isSome := by
  simp [get?, List.find?_isSome]

-- What a transmission adds to an exchange: a record of the sender without link quality, and one with it of each
-- device that hears the sender, all from this source. What other devices have reported stays.
structure Gains (sender : Eui64) (hearers : List Eui64) (x x' : Exchange) : Prop where
  sent : ∃ r, x'.get? sender = some r ∧ r.source = some sender ∧ r.timestamp.info.lqi = 0
  heard : ∀ device ∈ hearers, ∃ r, x'.get? device = some r ∧ r.source = some sender ∧ r.timestamp.info.lqi ≠ 0
  others : ∀ device, device ≠ sender → device ∉ hearers → x'.get? device = x.get? device
  -- each device has one record at most
  ordered : x.Ordered → x'.Ordered
  -- where nobody has reported before, nobody else has afterwards
  devices : x.reports = [] → (x'.reports.map (·.device)).Perm (sender :: hearers)

end Exchange

-- What a transmission makes known: one record of each of these devices, on one blink and from one source. Only the
-- sender's own record has no link quality.
structure Broadcast (id : BlinkId) (sender : Eui64) (devices : List Eui64) (ds : List Delivery) : Prop where
  ids : ∀ d ∈ ds, d.id = id
  sources : ∀ d ∈ ds, d.record.source = some sender
  lqi : ∀ d ∈ ds, d.record.timestamp.info.lqi = 0 ↔ d.record.device = sender
  devices : (ds.map (·.record.device)).Perm devices

namespace Broadcast

variable {id : BlinkId} {sender device : Eui64} {devices hearers : List Eui64} {ds ds' : List Delivery}

theorem nil (id : BlinkId) (sender : Eui64) : Broadcast id sender [] [] := ⟨nofun, nofun, nofun, .nil⟩

theorem cons {d : Delivery} (hid : d.id = id) (hsource : d.record.source = some sender)
    (hlqi : d.record.timestamp.info.lqi = 0 ↔ d.record.device = sender) (hdevice : d.record.device = device)
    (h : Broadcast id sender devices ds) : Broadcast id sender (device :: devices) (d :: ds) where
  ids := List.forall_mem_cons.mpr ⟨hid, h.ids⟩
  sources := List.forall_mem_cons.mpr ⟨hsource, h.sources⟩
  lqi := List.forall_mem_cons.mpr ⟨hlqi, h.lqi⟩
  devices := hdevice ▸ h.devices.cons _

-- The order of the reports does not matter.
theorem perm (h : Broadcast id sender devices ds) (hperm : ds'.Perm ds) : Broadcast id sender devices ds' where
  ids d hd := h.ids d (hperm.mem_iff.mp hd)
  sources d hd := h.sources d (hperm.mem_iff.mp hd)
  lqi d hd := h.lqi d (hperm.mem_iff.mp hd)
  devices := (hperm.map _).trans h.devices

theorem exists_delivery (h : Broadcast id sender devices ds) (hdevice : device ∈ devices) :
    ∃ d ∈ ds, d.record.device = device := List.mem_map.mp (h.devices.mem_iff.mpr hdevice)

theorem gains (h : Broadcast id sender devices ds) (hnodup : devices.Nodup)
    (hdevices : ∀ device, device ∈ devices ↔ device ∈ sender :: hearers) (hhearers : (sender :: hearers).Nodup)
    (x : Exchange) : x.Gains sender hearers ((ds.map (·.record)).foldl Exchange.report x) := by
  have hmap : (ds.map (·.record)).map (·.device) = ds.map (·.record.device) := by
    rw [List.map_map]
    rfl
  have honce : ((ds.map (·.record)).map (·.device)).Nodup := by rwa [hmap, h.devices.nodup_iff]
  have hfound {device : Eui64} (hmem : device ∈ sender :: hearers) : ∃ d ∈ ds, d.record.device = device ∧
      ((ds.map (·.record)).foldl Exchange.report x).get? device = some d.record := by
    obtain ⟨d, hd, rfl⟩ := h.exists_delivery ((hdevices device).mpr hmem)
    exact ⟨d, hd, rfl, Exchange.get?_reports_of_mem honce (List.mem_map.mpr ⟨d, hd, rfl⟩)⟩
  have hkept {device : Eui64} (hnot : device ∉ sender :: hearers) :
      ((ds.map (·.record)).foldl Exchange.report x).get? device = x.get? device := by
    refine Exchange.get?_reports_of_notMem ?_
    rwa [hmap, h.devices.mem_iff, hdevices]
  refine ⟨?sent, ?heard, ?others, fun hx => Exchange.ordered_reports hx _, ?devices⟩
  case sent =>
    obtain ⟨d, hd, hdevice, hget⟩ := hfound List.mem_cons_self
    exact ⟨d.record, hget, h.sources d hd, (h.lqi d hd).mpr hdevice⟩
  case heard =>
    intro device hmem
    obtain ⟨d, hd, hdevice, hget⟩ := hfound (List.mem_cons_of_mem sender hmem)
    have hne : d.record.device ≠ sender := by
      rintro rfl
      exact (List.nodup_cons.mp hhearers).1 (hdevice ▸ hmem)
    exact ⟨d.record, hget, h.sources d hd, fun hlqi => hne ((h.lqi d hd).mp hlqi)⟩
  case others =>
    intro device hsender hmem
    exact hkept (by simp [hsender, hmem])
  case devices =>
    intro hnew
    have hempty : x.Ordered := by
      rw [Exchange.Ordered, hnew]
      exact .nil
    have hordered := Exchange.ordered_reports hempty (ds.map (·.record))
    refine (List.perm_ext_iff_of_nodup hordered.nodup_devices hhearers).mpr fun device => ?_
    rw [Exchange.mem_devices_iff]
    by_cases hmem : device ∈ sender :: hearers
    · obtain ⟨d, -, -, hget⟩ := hfound hmem
      simp [hget, hmem]
    · rw [hkept hmem]
      simp [Exchange.get?, hnew, hmem]

end Broadcast

namespace ExchangeTable

variable {t : ExchangeTable} {id : BlinkId} {ds : List Delivery}

@[simp] theorem ids_deliverAll (t : ExchangeTable) (ds : List Delivery) : (t.deliverAll ds).ids = t.ids := by
  unfold deliverAll
  induction ds generalizing t with
  | nil => rfl
  | cons d ds ih => rw [List.foldl_cons, ih, ids_deliver]

-- Records on one blink change its exchange only.
theorem find?_deliverAll (hids : ∀ d ∈ ds, d.id = id) {x : Exchange} (hx : t.find? id = some x) :
    (t.deliverAll ds).find? id = some ((ds.map (·.record)).foldl Exchange.report x) := by
  have hrecords : (ds.map TableEvent.delivered).filterMap (TableEvent.recordFor id) = ds.map (·.record) := by
    rw [List.filterMap_map, ← List.filterMap_eq_map]
    exact List.filterMap_congr fun d hd => if_pos (hids d hd)
  have hopened : .opened id ∉ ds.map TableEvent.delivered := by simp
  have hclosed : .closed id ∉ ds.map TableEvent.delivered := by simp
  have hreplay := find?_replay hx hopened hclosed
  rwa [replay_delivered, hrecords] at hreplay

theorem find?_deliverAll_of_ne (hids : ∀ d ∈ ds, d.id = id) {other : BlinkId} (hne : other ≠ id) :
    (t.deliverAll ds).find? other = t.find? other := by
  unfold deliverAll
  induction ds generalizing t with
  | nil => rfl
  | cons d ds ih =>
    obtain ⟨hd, hds⟩ := List.forall_mem_cons.mp hids
    rw [List.foldl_cons, ih hds, deliver, find?_report, hd]
    simp [Ne.symm hne]

end ExchangeTable

end UwbRanging
