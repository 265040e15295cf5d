import ImageLoader.Loader.Sync
import ImageLoader.Proofs.Loader.Mapping
/-! The unmap pass of a synchronization. Each unmapping takes the record of its own address out and nothing
else, so in the end those are gone whose addresses were enumerated and are not live, in whatever order they
were gone through. -/

namespace ImageLoader.Loader

open Act

variable {σ τ : Type}

def removals (l : Loader) (records : List ImageRecord) : List Call :=
  records.flatMap fun r => l.removeCallbacks.map (.remove · r.image)

/-- The records at these addresses are taken out, so many, and the addresses are known no more. Each remove
callback was called once for each of the records, in some order, while it was registered. -/
structure Swept (gone : List UInt64) (n : Nat) (notices : List Notice)
    (p q : Process (List Notice × τ)) : Prop where
  known : ∀ a, q.loader.known.get? a = if a ∈ gone then none else p.loader.known.get? a
  records : q.registry.value.toList = p.registry.value.toList.filter (·.addr ∉ gone)
  count : n = (p.registry.value.toList.filter (·.addr ∈ gone)).length
  notes : q.client.1 = p.client.1 ++ notices
  calls : (notices.map (·.call)).Perm (removals p.loader (p.registry.value.toList.filter (·.addr ∈ gone)))
  present : ∀ n ∈ notices, n.Present

theorem filter_eq_find?_of_countP_le_one {α : Type} {P : α → Bool} {l : List α} (once : l.countP P ≤ 1) :
    l.filter P = (l.find? P).toList := by
  rw [List.countP_eq_length_filter] at once
  rw [← List.head?_filter]
  rcases h : l.filter P with _ | ⟨a, _ | ⟨b, rest⟩⟩
  · rfl
  · rfl
  · rw [h] at once
    simp at once

theorem filter_cons_perm (records : List ImageRecord) (addr : UInt64) (gone : List UInt64) :
    (records.filter (·.addr ∈ addr :: gone)).Perm
      (records.filter (·.addr = addr) ++ (records.filter (·.addr ≠ addr)).filter (·.addr ∈ gone)) := by
  have parts := List.filter_append_perm (fun r : ImageRecord => decide (r.addr = addr))
    (records.filter (·.addr ∈ addr :: gone))
  rw [List.filter_filter, List.filter_filter] at parts
  rw [List.filter_filter]
  refine parts.symm.trans (.of_eq ?_)
  congr 1
  · exact List.filter_congr fun r _ => by by_cases e : r.addr = addr <;> simp [e]
  · exact List.filter_congr fun r _ => by by_cases e : r.addr = addr <;> simp [e]

theorem removals_perm (l : Loader) {records records' : List ImageRecord} (h : records.Perm records') :
    (removals l records).Perm (removals l records') := h.flatMap_right _

section

variable {behave : Client (List Notice × τ)} {t : ThreadId} {live gone : List UInt64} {addr : UInt64} {n : Nat}
  {record : Option ImageRecord} {notices notices' : List Notice} {p q r : Process (List Notice × τ)}

namespace Swept

theorem nothing : Swept [] 0 [] p p where
  known _ := rfl
  records := by simp
  count := by simp
  notes := (List.append_nil _).symm
  calls := by simp [removals]
  present := nofun

theorem cons (covered : Covered addr 0 p) (first : Unmapped addr record notices p q)
    (rest : Swept gone n notices' q r) :
    Swept (addr :: gone) (record.toList.length + n) (notices ++ notices') p r := by
  have perm := filter_cons_perm p.registry.value.toList addr gone
  have one : p.registry.value.toList.filter (·.addr = addr) = record.toList := by
    rw [first.answer, filter_eq_find?_of_countP_le_one covered.countAt_le_one]
  rw [one, ← first.records] at perm
  refine ⟨fun x => ?_, ?_, ?_, ?_, ?_, List.forall_mem_append.2 ⟨first.present, rest.present⟩⟩
  · rw [rest.known, first.known]
    by_cases e : addr = x
    · simp [e]
    · simp [e, Ne.symm e]
  · rw [rest.records, first.records, List.filter_filter]
    exact List.filter_congr fun r _ => by simp [Bool.and_comm]
  · rw [perm.length_eq, List.length_append, rest.count]
  · rw [rest.notes, first.notes, List.append_assoc]
  · have callbacks : q.loader.removeCallbacks = p.loader.removeCallbacks := by rw [first.loader]
    refine .trans ?_ (removals_perm p.loader perm).symm
    rw [List.map_append, first.calls, removals, List.flatMap_append]
    refine .append_left _ (rest.calls.trans (.of_eq ?_))
    rw [removals, callbacks]

end Swept

end

end ImageLoader.Loader
