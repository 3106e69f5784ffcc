/-
  PcmRender.Proofs.Negotiation — **an endpoint that was negotiated can be used.**

  Whatever a device answers to the formats it is asked for, an endpoint comes back only for a source
  that can be decoded, and renders exactly as many channels as the source has.  It was handed out by
  the host for this very device, and all that happens to the host is that streams are asked for and
  given back.  It overflows only for a source of more channels than a layout can hold.
-/
import PcmRender.Negotiation

namespace PcmRender.Negotiation

variable {σ : Type}

/-! ## §1. The endpoint. -/

theorem refusal_ne_ok (device reason : String) (endpoint : Endpoint) :
    refusal device reason ≠ .ok endpoint := by
  unfold refusal
  simp

theorem refusal_ne_overflow (device reason : String) :
    refusal device reason ≠ .error .overflow := by
  unfold refusal
  simp

variable [Host σ]

theorem accept_ok {host : σ} {device : String} {source tried : Format}
    {offered endpoint : Endpoint}
    (h : (accept host device source tried offered).result = .ok endpoint) :
    endpoint.format.channels = source.channels := by
  unfold accept at h
  split at h
  next hch =>
    injection h with h
    rw [← h, hch]
  · exact absurd h (refusal_ne_ok _ _ _)

/-- Asking for one candidate after the other ends in a fitting endpoint or in none. -/
theorem ask_ok {device : String} {source : Format} {buffer : Duration}
    {exhausted : Except Fault Endpoint} (hex : ∀ e, exhausted ≠ .ok e) {endpoint : Endpoint} :
    ∀ (formats : List Format) (host : σ),
      (ask device source buffer exhausted host formats).result = .ok endpoint →
        endpoint.format.channels = source.channels := by
  intro formats
  induction formats with
  | nil =>
      intro host h
      exact absurd h (hex endpoint)
  | cons f rest ih =>
      intro host h
      unfold ask at h
      split at h
      · exact accept_ok h
      · exact ih _ h
      · exact absurd h (refusal_ne_ok _ _ _)

/-- **A negotiated endpoint** renders the channels of its source, which can be decoded. -/
theorem negotiate_ok {host : σ} {device : String} {source : Format} {buffer : Duration}
    {endpoint : Endpoint} (h : (negotiate host device source buffer).result = .ok endpoint) :
    source.isSupported = true ∧ endpoint.format.channels = source.channels := by
  unfold negotiate at h
  by_cases hs : source.isSupported = true
  · rw [if_pos hs] at h
    refine ⟨hs, ?_⟩
    dsimp only at h
    split at h
    · exact absurd h (by simp)
    · exact ask_ok (refusal_ne_ok _ _) _ _ h
  · rw [if_neg hs] at h
    exact absurd h (by simp)

/-! ## §2. The host. -/

variable {device : String} {source : Format} {buffer : Duration}

/-- An endpoint comes back only as a host has handed it out for this device. -/
theorem ask_activated {exhausted : Except Fault Endpoint} (hex : ∀ e, exhausted ≠ .ok e)
    {endpoint : Endpoint} : ∀ (formats : List Format) (host : σ),
      (ask device source buffer exhausted host formats).result = .ok endpoint →
        ∃ before f, (Host.activate before device f buffer : _ × σ).1 = .ok endpoint := by
  intro formats
  induction formats with
  | nil =>
      intro host h
      exact absurd h (hex endpoint)
  | cons f rest ih =>
      intro host h
      unfold ask at h
      split at h
      next offered after hactivated =>
        unfold accept at h
        split at h
        · injection h with h
          exact ⟨host, f, by rw [hactivated, h]⟩
        · exact absurd h (refusal_ne_ok _ _ _)
      · exact ih _ h
      · exact absurd h (refusal_ne_ok _ _ _)

theorem negotiate_activated {host : σ} {endpoint : Endpoint}
    (h : (negotiate host device source buffer).result = .ok endpoint) :
    ∃ before f, (Host.activate before device f buffer : _ × σ).1 = .ok endpoint := by
  unfold negotiate at h
  split at h
  · dsimp only at h
    split at h
    · exact absurd h (by simp)
    · exact ask_activated (refusal_ne_ok _ _) _ _ h
  · exact absurd h (by simp)

/-- A host is asked for streams and given streams back, and nothing else happens to it: what relates
it to itself after each of these relates it to itself after a negotiation. -/
theorem ask_relates {R : σ → σ → Prop} (hrefl : ∀ b, R b b)
    (htrans : ∀ a b c, R a b → R b c → R a c)
    (hactivate : ∀ b id f d, R b (Host.activate b id f d).2)
    (hrelease : ∀ b e, R b (Host.release b e)) (exhausted : Except Fault Endpoint) :
    ∀ (formats : List Format) (host : σ),
      R host (ask device source buffer exhausted host formats).host := by
  intro formats
  induction formats with
  | nil =>
      intro host
      exact hrefl host
  | cons f rest ih =>
      intro host
      have hasked := hactivate host device f buffer
      unfold ask
      split
      next offered after hactivated =>
        rw [hactivated] at hasked
        unfold accept
        split
        · exact hasked
        · exact htrans _ _ _ hasked (hrelease after offered)
      next reason after hactivated =>
        rw [hactivated] at hasked
        exact htrans _ _ _ hasked (ih after)
      next e after _ hactivated =>
        rw [hactivated] at hasked
        exact hasked

theorem negotiate_relates {R : σ → σ → Prop} (hrefl : ∀ b, R b b)
    (htrans : ∀ a b c, R a b → R b c → R a c)
    (hactivate : ∀ b id f d, R b (Host.activate b id f d).2)
    (hrelease : ∀ b e, R b (Host.release b e)) (host : σ) :
    R host (negotiate host device source buffer).host := by
  unfold negotiate
  split
  · dsimp only
    split
    · exact hrefl host
    · exact ask_relates hrefl htrans hactivate hrelease _ _ _
  · exact hrefl host

/-! ## §3. Overflows. -/

/-- The frames of all common layouts fit if those of the widest do, which have four bytes a sample. -/
theorem layoutsFit_iff {channels : Nat} : layoutsFit channels = true ↔ channels ≤ 16383 := by
  unfold layoutsFit
  rw [decide_eq_true_eq, show Nat.pow 2 16 = 65536 from rfl]
  omega

theorem ask_ne_overflow {exhausted : Except Fault Endpoint} (hex : exhausted ≠ .error .overflow) :
    ∀ (formats : List Format) (host : σ),
      (ask device source buffer exhausted host formats).result ≠ .error .overflow := by
  intro formats
  induction formats with
  | nil =>
      intro host
      exact hex
  | cons f rest ih =>
      intro host
      unfold ask
      split
      · unfold accept
        split
        · exact fun h => absurd h (by simp)
        · exact refusal_ne_overflow _ _
      · exact ih _
      · exact refusal_ne_overflow _ _

/-- A negotiation overflows only where the layout of a candidate does. -/
theorem channels_of_negotiate_overflow {host : σ}
    (h : (negotiate host device source buffer).result = .error .overflow) :
    65535 < 4 * source.channels := by
  unfold negotiate at h
  split at h
  · dsimp only at h
    split at h
    next hnone =>
      unfold candidates? at hnone
      split at hnone
      · exact absurd hnone (by simp)
      next hfits =>
        rw [layoutsFit_iff] at hfits
        omega
    · exact absurd h (ask_ne_overflow (refusal_ne_overflow _ _) _ _)
  · exact absurd h (by simp)

end PcmRender.Negotiation
