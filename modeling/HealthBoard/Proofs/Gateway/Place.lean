/-
Calls go to different places.

What a call is for can be told from the end of its place, and the end of a place is the end of the
path that is asked for, whatever the gateway's address is, unless the address goes on after its
path.  So no call is taken for another one that ends differently.
-/
import HealthBoard.Proofs.Gateway.Arguments
import HealthBoard.Proofs.Url.Ending

namespace HealthBoard

namespace Call

/-- The last segment of the place. -/
def ending : Call → String
  | .hourlyHealth .. => "hourly"
  | .publicHourly => "hourly_last24h"
  | .enabledModels => "models_enabled"
  | .recordFingerprint _ => "record"
  | .fingerprints keyword _ _ => if Text.trim keyword = "" then "" else "search"
  | .duplicateVisitors .. => "duplicates"
  | .usersByVisitor .. => "users"

theorem isPlain_ending (c : Call) : Url.IsPlain c.ending.toList := by
  cases c with
  | fingerprints keyword page size =>
    rw [ending]
    split <;> exact ⟨by decide, by decide, by decide, by decide⟩
  | _ =>
    rw [ending]
    exact ⟨by decide, by decide, by decide, by decide⟩

theorem endsIn_place (c : Call) : Url.EndsIn c.ending.toList c.place.toList := by
  cases c with
  | fingerprints keyword page size =>
    rw [ending, place]
    split <;> exact ⟨'t', by decide, by decide⟩
  | hourlyHealth modelName window =>
    rw [ending, place]
    exact ⟨'h', by decide, by decide⟩
  | publicHourly => exact ⟨'h', by decide, by decide⟩
  | enabledModels => exact ⟨'l', by decide, by decide⟩
  | _ =>
    rw [ending, place]
    exact ⟨'t', by decide, by decide⟩

theorem ending_ne {c : Call} (h : c ≠ .enabledModels) : c.ending ≠ "models_enabled" := by
  cases c with
  | enabledModels => exact absurd rfl h
  | fingerprints keyword page size =>
    simp only [ending]
    split <;> decide
  | _ =>
    simp only [ending]
    decide

end Call

/-- Calls whose places end differently go to different paths. -/
theorem Gateway.path_ne {g : Gateway} {c c' : Call} {a a' : Url.Address}
    (hquery : '?' ∉ g.baseUrl.toList) (hfragment : '#' ∉ g.baseUrl.toList)
    (hending : c.ending ≠ c'.ending) (ha : Url.Address.parse (g.root ++ c.place) = .ok a)
    (ha' : Url.Address.parse (g.root ++ c'.place) = .ok a') : a.path ≠ a'.path := by
  have hsuffix : ∀ {c : Call} {a : Url.Address}, Url.Address.parse (g.root ++ c.place) = .ok a →
      '/' :: c.ending.toList <:+ a.path := by
    intro c a ha
    refine Url.Address.parse_suffix c.isPlain_ending ?_ ?_ ?_ ha
    · rw [String.toList_append, List.mem_append]
      exact fun h => h.elim (fun h => hquery (g.root_subset h)) c.signs_notMem_place.1
    · rw [String.toList_append, List.mem_append]
      exact fun h => h.elim (fun h => hfragment (g.root_subset h)) c.signs_notMem_place.2
    · obtain ⟨sign, hsign, hends⟩ := c.endsIn_place
      rw [String.toList_append]
      exact ⟨sign, hsign, hends.trans (List.suffix_append _ _)⟩
  intro hpath
  have hsame := Url.segment_unique c.isPlain_ending c'.isPlain_ending (hsuffix ha)
    (hpath ▸ hsuffix ha')
  exact hending (String.toList_injective hsame)

end HealthBoard
