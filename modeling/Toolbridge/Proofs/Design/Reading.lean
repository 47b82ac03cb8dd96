import Toolbridge.Design.Document
import Mathlib.Data.List.Nodup

set_option autoImplicit false

namespace Toolbridge

namespace Keyed

variable {α : Type} {name : String} {a : α} {entries : List (String × α)}

theorem mem_names_put {other : String} :
    other ∈ names (put name a entries) ↔ other = name ∨ other ∈ names entries := by
  induction entries with
  | nil => simp [names, put]
  | cons e rest ih =>
    obtain ⟨key, old⟩ := e
    unfold put
    split
    · rename_i same
      simp [names, same]
    · change other ∈ key :: names (put name a rest) ↔ other = name ∨ other ∈ key :: names rest
      rw [List.mem_cons, List.mem_cons, ih, or_left_comm]

theorem names_put_nodup (h : (names entries).Nodup) : (names (put name a entries)).Nodup := by
  induction entries with
  | nil => exact List.nodup_singleton _
  | cons e rest ih =>
    obtain ⟨key, old⟩ := e
    obtain ⟨fresh, rest⟩ := List.nodup_cons.mp h
    unfold put
    split
    · rename_i same
      exact List.nodup_cons.mpr ⟨same ▸ fresh, rest⟩
    · rename_i different
      refine List.nodup_cons.mpr ⟨fun mem => ?_, ih rest⟩
      exact (mem_names_put.mp mem).elim different fresh

theorem names_ofList_nodup (given : List (String × α)) : (names (ofList given)).Nodup := by
  have step : ∀ acc : List (String × α), (names acc).Nodup →
      (names (given.foldl (fun acc e => put e.1 e.2 acc) acc)).Nodup := by
    induction given with
    | nil => exact fun acc h => h
    | cons e rest ih => exact fun acc h => ih _ (names_put_nodup h)
  exact step [] List.nodup_nil

end Keyed

namespace Yaml.Reading

variable {α β : Type} {d : Document} {depth count count' : Nat} {n : Node}

theorem bind_some {m : Reading α} {g : α → Reading β} {y : β}
    (h : (m >>= g) count = some (y, count')) :
    ∃ x between, m count = some (x, between) ∧ g x between = some (y, count') := by
  change ((m count).bind fun r => g r.1 r.2) = some (y, count') at h
  obtain ⟨r, first, rest⟩ := Option.bind_eq_some_iff.mp h
  exact ⟨r.1, r.2, first, rest⟩

theorem deeper_some {read : Nat → Reading α} {x : α}
    (h : deeper depth read count = some (x, count')) :
    ∃ depth, read depth count = some (x, count') := by
  cases depth with
  | zero => cases h
  | succ depth => exact ⟨depth, h⟩

theorem record_some {known : List String} {read : Nat → List (String × Node) → Reading α} {x : α}
    (h : record d depth known read n count = some (x, count')) :
    ∃ depth entries between, read depth entries between = some (x, count') := by
  unfold record at h
  obtain ⟨node, between, -, h⟩ := bind_some h
  split at h
  · obtain ⟨depth, h⟩ := deeper_some h
    obtain ⟨entries, between, -, h⟩ := bind_some h
    exact ⟨depth, entries, between, h⟩
  · split at h
    · exact ⟨depth, [], between, h⟩
    · cases h

theorem keyedOf_nodup {read : Nat → Node → Reading α} {entries : List (String × α)}
    (h : keyedOf d depth read n count = some (entries, count')) :
    (Keyed.names entries).Nodup := by
  unfold keyedOf at h
  obtain ⟨node, between, -, h⟩ := bind_some h
  split at h
  · obtain ⟨depth, h⟩ := deeper_some h
    obtain ⟨given, between, -, h⟩ := bind_some h
    cases h
    exact Keyed.names_ofList_nodup given
  · split at h
    · cases h
      exact List.nodup_nil
    · cases h

theorem orElse_some {entries : List (String × Node)} {name : String} {fallback x : α}
    {read : Node → Reading α} (h : orElse entries name fallback read count = some (x, count')) :
    x = fallback ∨ ∃ n, read n count = some (x, count') := by
  unfold orElse at h
  cases found : entries.lookup name with
  | none =>
    rw [found] at h
    cases h
    exact .inl rfl
  | some n =>
    rw [found] at h
    exact .inr ⟨n, h⟩

end Yaml.Reading

namespace Design

open Yaml.Reading

theorem keyed_of_read {text : String} {doc : DesignDoc} (h : DesignDoc.ofYaml? text = some doc) :
    (doc.types.map (·.name)).Nodup := by
  unfold DesignDoc.ofYaml? at h
  obtain ⟨tokens, -, h⟩ := Option.bind_eq_some_iff.mp h
  obtain ⟨d, -, h⟩ := Option.bind_eq_some_iff.mp h
  obtain ⟨⟨read, count⟩, made, same⟩ := Option.bind_eq_some_iff.mp h
  obtain rfl := Option.some.inj same
  unfold designDoc at made
  obtain ⟨depth, entries, between, made⟩ := record_some made
  obtain ⟨types, _, readTypes, made⟩ := bind_some made
  obtain ⟨service, _, -, made⟩ := bind_some made
  obtain ⟨root, _, -, made⟩ := bind_some made
  obtain ⟨services, _, -, made⟩ := bind_some made
  obtain ⟨toolsets, _, -, made⟩ := bind_some made
  cases made
  have keys : (types.map fun e => { e.2 with name := e.1 }).map (·.name) = Keyed.names types := by
    rw [List.map_map]
    rfl
  change ((types.map fun e : String × TypeDecl => { e.2 with name := e.1 }).map (·.name)).Nodup
  rw [keys]
  rcases orElse_some readTypes with rfl | ⟨n, readTypes⟩
  · exact List.nodup_nil
  · exact keyedOf_nodup readTypes

end Design
end Toolbridge
