import ImageLoader.Proofs.ImageList.Records
import ImageLoader.Proofs.Registry.Access
/-! The registry as a plain list of records in load order. A run of requests, whichever threads make
them, answers as the same requests to the list do and leaves its records; while the registry's lock can
be had, every request is answered. -/

namespace ImageLoader.Registry

open Act

variable {σ β γ : Type}

inductive Request (β : Type)
  | append (r : ImageRecord)
  | remove (addr : UInt64)
  | update (addr : UInt64) (f : ImageRecord → ImageRecord)
  | setRealized (addr : UInt64) (value : Bool)
  | find (addr : UInt64)
  | findSome (f : ImageRecord → Option β)
  | contains (addr : UInt64)
  | pathContaining (a : UInt64)
  | count
  | isEmpty
  | first
  | last
  | snapshot
  | forEach (f : ImageRecord → β → β) (start : β)

inductive Answer (β : Type)
  | done
  | record (r : Option ImageRecord)
  | flag (b : Bool)
  | found (b : Option β)
  | path (s : Option String)
  | number (n : Nat)
  | records (rs : List ImageRecord)
  | left (b : β)
  deriving DecidableEq

def serve (t : ThreadId) : Request β → ProcessAct σ (Answer β)
  | .append r => do append t r; pure .done
  | .remove addr => .record <$> remove t addr
  | .update addr f => .flag <$> update t addr f
  | .setRealized addr value => .flag <$> setRealized t addr value
  | .find addr => .record <$> find? t addr
  | .findSome f => .found <$> findSome? t f
  | .contains addr => .flag <$> contains t addr
  | .pathContaining a => .path <$> pathContaining? t a
  | .count => .number <$> count t
  | .isEmpty => .flag <$> isEmpty t
  | .first => .record <$> first? t
  | .last => .record <$> last? t
  | .snapshot => .records <$> snapshot t
  | .forEach f start => .left <$> forEach t f start

def serveAll : List (ThreadId × Request β) → ProcessAct σ (List (Answer β))
  | [] => pure []
  | (t, q) :: rest => do
    let a ← serve t q
    let answers ← serveAll rest
    pure (a :: answers)

/-- A request to the storage. -/
def Request.onImages : Request β → ImageList → Answer β × ImageList
  | .append r, l => (.done, l.append r)
  | .remove addr, l => (.record (l.remove addr).1, (l.remove addr).2)
  | .update addr f, l => (.flag (l.update addr f).1, (l.update addr f).2)
  | .setRealized addr value, l =>
    (.flag (l.setRealized addr value).1, (l.setRealized addr value).2)
  | .find addr, l => (.record (l.find? addr), l)
  | .findSome f, l => (.found (l.findSome? f), l)
  | .contains addr, l => (.flag (l.contains addr), l)
  | .pathContaining a, l => (.path (l.pathContaining? a), l)
  | .count, l => (.number l.count, l)
  | .isEmpty, l => (.flag l.isEmpty, l)
  | .first, l => (.record l.first?, l)
  | .last, l => (.record l.last?, l)
  | .snapshot, l => (.records l.toList, l)
  | .forEach f start, l => (.left (l.visit f start), l)

/-- A request to the records in load order. -/
def Request.onRecords : Request β → List ImageRecord → Answer β × List ImageRecord
  | .append r, rs => (.done, rs ++ [r])
  | .remove addr, rs => (.record (rs.find? (·.addr = addr)), rs.eraseP (·.addr = addr))
  | .update addr f, rs => (.flag (rs.any (·.addr = addr)), updateFirst addr f rs)
  | .setRealized addr value, rs =>
    (.flag (rs.any (·.addr = addr)), updateFirst addr (fun r => { r with realized := value }) rs)
  | .find addr, rs => (.record (rs.find? (·.addr = addr)), rs)
  | .findSome f, rs => (.found (rs.findSome? f), rs)
  | .contains addr, rs => (.flag (rs.any (·.addr = addr)), rs)
  | .pathContaining a, rs => (.path ((rs.find? (·.image.contains a)).map (·.name)), rs)
  | .count, rs => (.number rs.length, rs)
  | .isEmpty, rs => (.flag rs.isEmpty, rs)
  | .first, rs => (.record rs.head?, rs)
  | .last, rs => (.record rs.getLast?, rs)
  | .snapshot, rs => (.records rs, rs)
  | .forEach f start, rs => (.left (rs.foldl (fun b r => f r b) start), rs)

def onRecordsAll : List (Request β) → List ImageRecord → List (Answer β) × List ImageRecord
  | [], rs => ([], rs)
  | q :: rest, rs =>
    ((q.onRecords rs).1 :: (onRecordsAll rest (q.onRecords rs).2).1,
      (onRecordsAll rest (q.onRecords rs).2).2)

theorem map_access (t : ThreadId) (f : ImageList → β × ImageList) (g : β → γ) :
    (g <$> access t f : ProcessAct σ γ) = access t fun l => (g (f l).1, (f l).2) := by
  funext p
  rw [map_apply]
  by_cases hg : p.gate.governs .headerLock
  · rw [access_governed hg, access_governed hg]
    cases Gate.acquire .headerLock .exclusive p.gate <;> rfl
  · rw [access_native (by simpa using hg), access_native (by simpa using hg)]
    cases p.registry.lock.busy <;> rfl

theorem findSome?_ite (rs : List ImageRecord) (c : ImageRecord → Bool) (g : ImageRecord → γ) :
    (rs.findSome? fun r => if c r then some (g r) else none) = (rs.find? c).map g := by
  induction rs with
  | nil => rfl
  | cons r rest ih => cases h : c r <;> simp [h, ih]

theorem findSome?_addr (l : ImageList) (addr : UInt64) (g : ImageRecord → γ) :
    (l.findSome? fun r => if r.addr = addr then some (g r) else none) = (l.find? addr).map g := by
  have first := findSome?_ite l.toList (·.addr = addr) g
  simp only [decide_eq_true_eq] at first
  exact first

theorem serve_eq_access (t : ThreadId) (q : Request β) :
    (serve t q : ProcessAct σ (Answer β)) = access t q.onImages := by
  cases q <;> exact map_access t _ _

theorem onImages_agrees (q : Request β) {l : ImageList} (h : l.Chained) :
    (q.onImages l).1 = (q.onRecords l.toList).1 ∧ (q.onImages l).2.Chained ∧
      (q.onImages l).2.toList = (q.onRecords l.toList).2 := by
  cases q with
  | append r => exact ⟨rfl, ImageList.chained_append h r, ImageList.toList_append h r⟩
  | remove addr =>
    obtain ⟨chained, answer, records⟩ := ImageList.remove_spec h addr
    exact ⟨congrArg _ answer, chained, records⟩
  | update addr f =>
    obtain ⟨chained, answer, records⟩ := ImageList.update_spec h addr f
    exact ⟨congrArg _ answer, chained, records⟩
  | setRealized addr value =>
    obtain ⟨chained, answer, records⟩ :=
      ImageList.update_spec h addr fun r => { r with realized := value }
    exact ⟨congrArg _ answer, chained, records⟩
  | pathContaining a =>
    exact ⟨congrArg _ (findSome?_ite l.toList (·.image.contains a) (·.name)), h, rfl⟩
  | count => exact ⟨congrArg _ (ImageList.count_eq h), h, rfl⟩
  | isEmpty => exact ⟨congrArg _ (ImageList.isEmpty_eq h), h, rfl⟩
  | first => exact ⟨congrArg _ (ImageList.first?_eq h), h, rfl⟩
  | last => exact ⟨congrArg _ (ImageList.last?_eq h), h, rfl⟩
  | find addr => exact ⟨rfl, h, rfl⟩
  | findSome f => exact ⟨rfl, h, rfl⟩
  | contains addr => exact ⟨rfl, h, rfl⟩
  | snapshot => exact ⟨rfl, h, rfl⟩
  | forEach f start => exact ⟨rfl, h, rfl⟩

/-- The request puts nothing at `addr` and takes nothing away there; a flag there it may set. -/
def Request.Avoids (addr : UInt64) : Request β → Prop
  | .append r => r.addr ≠ addr
  | .remove a => a ≠ addr
  | .update a f => a ≠ addr ∧ ∀ r, (f r).addr = r.addr
  | _ => True

theorem Request.Avoids.records {addr : UInt64} {q : Request β} (avoids : q.Avoids addr)
    (rs : List ImageRecord) :
    ((q.onRecords rs).2.filter (·.addr = addr)).map (·.image) =
      (rs.filter (·.addr = addr)).map (·.image) := by
  cases q with
  | append r =>
    have other : r.addr ≠ addr := avoids
    simp [onRecords, other]
  | remove a => exact congrArg _ (ImageList.filter_eraseP_of_ne avoids rs)
  | update a f => exact imagesAt_updateFirst avoids.2 (fun e => absurd e avoids.1) rs
  | setRealized a value =>
    exact imagesAt_updateFirst (a := a) (f := fun r => { r with realized := value }) (fun _ => rfl)
      (fun _ _ => rfl) rs
  | _ => rfl

theorem serve_ok {t : ThreadId} {q : Request β} {p p' : Process σ} {a : Answer β}
    (chained : p.registry.value.Chained) (h : serve t q p = .ok a p') :
    a = (q.onRecords p.registry.value.toList).1 ∧ p'.registry.value.Chained ∧
      p'.registry.value.toList = (q.onRecords p.registry.value.toList).2 := by
  rw [serve_eq_access] at h
  obtain ⟨rfl, hvalue, -⟩ := access_ok h
  rw [hvalue]
  exact onImages_agrees q chained

/-- A request that avoids an address leaves the images there. -/
theorem serve_avoids {t : ThreadId} {q : Request β} {p p' : Process σ} {a : Answer β} {addr : UInt64}
    (avoids : q.Avoids addr) (chained : p.registry.value.Chained) (h : serve t q p = .ok a p') :
    p'.registry.value.Chained ∧ p'.registry.value.imagesAt addr = p.registry.value.imagesAt addr ∧
      p'.loader = p.loader := by
  obtain ⟨-, chained', records⟩ := serve_ok chained h
  rw [serve_eq_access] at h
  obtain ⟨-, -, frame⟩ := access_ok h
  refine ⟨chained', ?_, frame.loader⟩
  rw [ImageList.imagesAt, records, avoids.records, ImageList.imagesAt]

theorem serve_of_available {p : Process σ} (h : available p) (t : ThreadId) (q : Request β) :
    ∃ a p', serve t q p = .ok a p' ∧ available p' := by
  rw [serve_eq_access]
  exact ⟨_, access_of_available h t q.onImages⟩

theorem serveAll_ok {requests : List (ThreadId × Request β)} {p p' : Process σ}
    {answers : List (Answer β)} (chained : p.registry.value.Chained)
    (h : serveAll requests p = .ok answers p') :
    answers = (onRecordsAll (requests.map (·.2)) p.registry.value.toList).1 ∧
      p'.registry.value.Chained ∧
      p'.registry.value.toList = (onRecordsAll (requests.map (·.2)) p.registry.value.toList).2 := by
  induction requests generalizing p answers with
  | nil =>
    cases h
    exact ⟨rfl, chained, rfl⟩
  | cons request rest ih =>
    obtain ⟨t, q⟩ := request
    obtain ⟨a, p₁, h₁, h⟩ := bind_eq_ok.1 h
    obtain ⟨as, p₂, h₂, h⟩ := bind_eq_ok.1 h
    cases h
    obtain ⟨rfl, chained₁, records₁⟩ := serve_ok chained h₁
    obtain ⟨rfl, chained₂, records₂⟩ := ih chained₁ h₂
    rw [records₁] at records₂ ⊢
    exact ⟨rfl, chained₂, records₂⟩

theorem serveAll_of_available (requests : List (ThreadId × Request β)) {p : Process σ}
    (h : available p) : ∃ answers p', serveAll requests p = .ok answers p' := by
  induction requests generalizing p with
  | nil => exact ⟨[], p, rfl⟩
  | cons request rest ih =>
    obtain ⟨t, q⟩ := request
    obtain ⟨a, p₁, h₁, available⟩ := serve_of_available h t q
    obtain ⟨as, p₂, h₂⟩ := ih available
    exact ⟨a :: as, p₂, bind_eq_ok.2 ⟨a, p₁, h₁, bind_eq_ok.2 ⟨as, p₂, h₂, rfl⟩⟩⟩

/-- The registry is the list of its records. After any requests the chain holds the records that the
list does, in slots that differ from each other and from the free ones, and their answers are the
list's. -/
theorem serveAll_refines_records (requests : List (ThreadId × Request β)) (p : Process σ)
    (empty : p.registry.value = {}) :
    (∀ answers p', serveAll requests p = .ok answers p' →
      answers = (onRecordsAll (requests.map (·.2)) []).1 ∧
        ∃ cells, p'.registry.value.Holds cells ∧
          cells.map (·.2) = (onRecordsAll (requests.map (·.2)) []).2 ∧
          (cells.map (·.1)).Nodup ∧ ∀ c ∈ cells, c.1 ∉ p'.registry.value.free) ∧
      (available p → ∃ answers p', serveAll requests p = .ok answers p') := by
  refine ⟨fun answers p' h => ?_, serveAll_of_available requests⟩
  have chained : p.registry.value.Chained := empty ▸ ImageList.chained_empty
  obtain ⟨hanswers, ⟨cells, holds⟩, records⟩ := serveAll_ok chained h
  have start : p.registry.value.toList = [] := by
    rw [empty]
    rfl
  rw [start] at hanswers records
  have nodup := List.nodup_append.1 holds.nodup
  refine ⟨hanswers, cells, holds, holds.toList_eq.symm.trans records, nodup.2.1, fun c hc hf => ?_⟩
  exact nodup.2.2 c.1 hf c.1 (List.mem_map_of_mem hc) rfl

/-- Two records of one address, a removal at the head, a slot used again, a removal at the tail. -/
def slotReuse : List (ThreadId × Request Unit) :=
  let r (addr : UInt64) (path : String) : ImageRecord := .new (.new addr .dylib path 0)
  [(.named "a", .append (r 1 "libA")), (.named "b", .append (r 2 "libB")),
    (.named "a", .append (r 1 "libC")), (.named "b", .remove 1), (.named "a", .append (r 3 "libD")),
    (.named "a", .remove 3), (.named "a", .last), (.named "b", .snapshot)]

theorem serveAll_refines_records_slotReuse :
    (Process.unmanaged {} ()).registry.value = {} ∧
      ∃ answers p', serveAll slotReuse (Process.unmanaged {} ()) = .ok answers p' ∧
        answers = (onRecordsAll (slotReuse.map (·.2)) []).1 ∧
        ∃ cells, p'.registry.value.Holds cells ∧ (cells.map (·.2)).map (·.name) = ["libB", "libC"] := by
  obtain ⟨refines, answered⟩ := serveAll_refines_records slotReuse (Process.unmanaged {} ()) rfl
  obtain ⟨answers, p', h⟩ := answered (by decide)
  obtain ⟨hanswers, cells, holds, records, -, -⟩ := refines answers p' h
  refine ⟨rfl, answers, p', h, hanswers, cells, holds, ?_⟩
  rw [records]
  decide

end ImageLoader.Registry
