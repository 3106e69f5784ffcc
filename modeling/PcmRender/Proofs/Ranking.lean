/-
  PcmRender.Proofs.Ranking — **in which order a device is asked for formats.**

  The ranking is put together from several lists that overlap.  Without the repetitions it falls into
  three parts, one behind the other:

      same     what is built in, at the rate of the source; the source itself comes first
      other    what is built in, at other rates
      rest     what only the device has reported

  Whatever is built in or reported, can be encoded and has the channels of the source stands in it,
  once, and nothing else does.

  A device is then asked for one candidate after the other.  It is asked for the next one exactly if
  it has rejected the one before as a format, so a negotiation is told by the candidates that were
  rejected and by what became of the one behind them.

  Main statements:
    * `ranked_candidates?` — the order and the members of the ranking,
    * `asked_negotiate` — the four ends of a negotiation,
    * `devices_are_asked_in_order` — both together.
-/
import Mathlib.Data.List.Nodup
import PcmRender.DeviceBank
import PcmRender.Proofs.Negotiation

namespace PcmRender

namespace Negotiation

/-! ## §1. Each format where it stands first. -/

theorem go_seen {seen rest : List Format} {f : Format} (h : f ∈ seen) :
    firstOnly.go seen (f :: rest) = firstOnly.go seen rest := if_pos h

theorem go_new {seen rest : List Format} {f : Format} (h : f ∉ seen) :
    firstOnly.go seen (f :: rest) = firstOnly.go (f :: seen) rest := if_neg h

theorem mem_go {f : Format} (formats : List Format) : ∀ seen : List Format,
    f ∈ firstOnly.go seen formats ↔ f ∈ seen ∨ f ∈ formats := by
  -- The induction goes along the formats that are still to come; what was seen grows.
  induction formats with
  | nil =>
      intro seen
      simp [firstOnly.go]
  | cons g rest ih =>
      intro seen
      by_cases hseen : g ∈ seen
      · rw [go_seen hseen, ih seen, List.mem_cons]
        by_cases hfg : f = g
        · subst hfg
          simp [hseen]
        · simp [hfg]
      · rw [go_new hseen, ih (g :: seen), List.mem_cons, List.mem_cons, or_assoc, or_left_comm]

theorem nodup_go (formats : List Format) : ∀ {seen : List Format}, seen.Nodup →
    (firstOnly.go seen formats).Nodup := by
  induction formats with
  | nil =>
      intro seen h
      exact List.nodup_reverse.mpr h
  | cons g rest ih =>
      intro seen h
      by_cases hseen : g ∈ seen
      · rw [go_seen hseen]
        exact ih h
      · rw [go_new hseen]
        exact ih (List.nodup_cons.mpr ⟨hseen, h⟩)

/-- What was seen stays in front, and only what is new comes behind it. -/
theorem go_fresh (formats : List Format) : ∀ seen : List Format,
    ∃ fresh, firstOnly.go seen formats = seen.reverse ++ fresh
      ∧ ∀ f ∈ fresh, f ∈ formats ∧ f ∉ seen := by
  induction formats with
  | nil =>
      intro seen
      exact ⟨[], (List.append_nil _).symm, by simp⟩
  | cons g rest ih =>
      intro seen
      by_cases hseen : g ∈ seen
      · rw [go_seen hseen]
        obtain ⟨fresh, heq, hfresh⟩ := ih seen
        exact ⟨fresh, heq, fun f hf =>
          ⟨List.mem_cons_of_mem _ (hfresh f hf).1, (hfresh f hf).2⟩⟩
      · rw [go_new hseen]
        obtain ⟨fresh, heq, hfresh⟩ := ih (g :: seen)
        refine ⟨g :: fresh, by rw [heq, List.reverse_cons, List.append_assoc]; rfl, fun f hf => ?_⟩
        rcases List.mem_cons.mp hf with rfl | hlater
        · exact ⟨List.mem_cons_self, hseen⟩
        · obtain ⟨hrest, hnew⟩ := hfresh f hlater
          exact ⟨List.mem_cons_of_mem _ hrest, fun h => hnew (List.mem_cons_of_mem _ h)⟩

/-- A list can be gone through in two parts. -/
theorem go_append (front back : List Format) : ∀ seen : List Format,
    firstOnly.go seen (front ++ back) = firstOnly.go (firstOnly.go seen front).reverse back := by
  induction front with
  | nil =>
      intro seen
      show _ = firstOnly.go seen.reverse.reverse back
      rw [List.reverse_reverse]
      rfl
  | cons g rest ih =>
      intro seen
      rw [List.cons_append]
      by_cases hseen : g ∈ seen
      · rw [go_seen hseen, go_seen hseen]
        exact ih seen
      · rw [go_new hseen, go_new hseen]
        exact ih (g :: seen)

/-- Nothing is lost, -/
theorem mem_firstOnly {f : Format} {formats : List Format} :
    f ∈ firstOnly formats ↔ f ∈ formats := by
  unfold firstOnly
  rw [mem_go]
  simp

/-- and nothing comes twice. -/
theorem nodup_firstOnly (formats : List Format) : (firstOnly formats).Nodup :=
  nodup_go formats List.nodup_nil

/-- **What stands first in front stays in front**, and behind it comes what is new there. -/
theorem firstOnly_append (front back : List Format) :
    ∃ fresh, firstOnly (front ++ back) = firstOnly front ++ fresh
      ∧ ∀ f ∈ fresh, f ∈ back ∧ f ∉ front := by
  obtain ⟨fresh, heq, hfresh⟩ := go_fresh back (firstOnly front).reverse
  refine ⟨fresh, ?_, fun f hf => ?_⟩
  · rw [List.reverse_reverse] at heq
    rw [← heq]
    exact go_append front back []
  · obtain ⟨hback, hnew⟩ := hfresh f hf
    rw [List.mem_reverse, mem_firstOnly] at hnew
    exact ⟨hback, hnew⟩

/-! ## §2. The ranking. -/

/-- What is proposed for a source whatever the device reports: the source, and at its rate and at
every common one the little-endian source and the common layouts. -/
def BuiltIn (source f : Format) : Prop :=
  f = source ∨ ∃ rate ∈ source.rate :: commonRates,
    f = { source.withOrder .little with rate := rate } ∨ f ∈ layouts rate source.channels

/-- The built-in formats at the rate of the source. -/
def atRate (source : Format) : List Format :=
  [source, source.withOrder .little] ++ layouts source.rate source.channels

/-- The built-in formats at other rates. -/
def atOtherRates (source : Format) : List Format :=
  (commonRates.filter (· != source.rate)).flatMap fun rate =>
    { source.withOrder .little with rate := rate } :: layouts rate source.channels

theorem ranking_eq (source : Format) (supported : List Format) :
    ranking source supported = atRate source ++ (atOtherRates source ++ supported) := by
  unfold ranking atRate atOtherRates
  rw [← List.append_assoc]

/-- A common layout has the rate that it is asked for. -/
theorem rate_of_layouts {rate channels : Nat} {f : Format} (h : f ∈ layouts rate channels) :
    f.rate = rate := by
  unfold layouts at h
  simp only [List.mem_cons, List.not_mem_nil, or_false] at h
  rcases h with rfl | rfl | rfl | rfl <;> rfl

theorem rate_of_atRate {source f : Format} (h : f ∈ atRate source) :
    BuiltIn source f ∧ f.rate = source.rate := by
  unfold atRate at h
  simp only [List.mem_append, List.mem_cons, List.not_mem_nil, or_false] at h
  rcases h with (rfl | rfl) | hlayout
  · exact ⟨.inl rfl, rfl⟩
  · exact ⟨.inr ⟨source.rate, List.mem_cons_self, .inl rfl⟩, rfl⟩
  · exact ⟨.inr ⟨source.rate, List.mem_cons_self, .inr hlayout⟩, rate_of_layouts hlayout⟩

theorem rate_of_atOtherRates {source f : Format} (h : f ∈ atOtherRates source) :
    BuiltIn source f ∧ f.rate ≠ source.rate := by
  unfold atOtherRates at h
  obtain ⟨rate, hrate, hf⟩ := List.mem_flatMap.mp h
  obtain ⟨hcommon, hother⟩ := List.mem_filter.mp hrate
  have hne : rate ≠ source.rate := by simpa using hother
  rcases List.mem_cons.mp hf with rfl | hlayout
  · exact ⟨.inr ⟨rate, List.mem_cons_of_mem _ hcommon, .inl rfl⟩, hne⟩
  · exact ⟨.inr ⟨rate, List.mem_cons_of_mem _ hcommon, .inr hlayout⟩, by
      rw [rate_of_layouts hlayout]; exact hne⟩

/-- What is built in stands in one of the two lists, whichever rate it has. -/
theorem mem_of_builtIn {source f : Format} (h : BuiltIn source f) :
    f ∈ atRate source ∨ f ∈ atOtherRates source := by
  rcases h with rfl | ⟨rate, hrate, hf⟩
  · exact .inl (by simp [atRate])
  · by_cases hsame : rate = source.rate
    · subst hsame
      left
      rcases hf with rfl | hlayout
      · simp [atRate, Format.withOrder]
      · exact List.mem_append_right _ hlayout
    · right
      refine List.mem_flatMap.mpr ⟨rate, List.mem_filter.mpr ⟨?_, by simpa using hsame⟩, ?_⟩
      · exact (List.mem_cons.mp hrate).resolve_left hsame
      · exact List.mem_cons.mpr hf

/-- What a ranking of candidates for a source is like, on a device that reports some formats. -/
structure Ranked (source : Format) (supported candidates : List Format) : Prop where
  /-- The source comes first. -/
  first : candidates.head? = some source
  /-- Nothing comes twice. -/
  once : candidates.Nodup
  /-- Everything can be encoded, and has the channels of the source. -/
  fits : ∀ f ∈ candidates, f.isSupported = true ∧ f.channels = source.channels
  /-- What is built in stands in front of what is only reported, and there the rate of the source in
  front of all others. -/
  rates : ∃ same other rest, candidates = same ++ (other ++ rest)
    ∧ (∀ f ∈ same, BuiltIn source f ∧ f.rate = source.rate)
    ∧ (∀ f ∈ other, BuiltIn source f ∧ f.rate ≠ source.rate)
    ∧ ∀ f ∈ rest, ¬ BuiltIn source f
  /-- All that fits and is built in or reported is there. -/
  complete : ∀ f, f.isSupported = true → f.channels = source.channels →
    (f ∈ candidates ↔ BuiltIn source f ∨ f ∈ supported)

theorem proposable_iff {channels : Nat} {f : Format} :
    proposable channels f = true ↔ f.isSupported = true ∧ f.channels = channels := by
  unfold proposable
  rw [Bool.and_eq_true, beq_iff_eq, and_comm]

theorem mem_ranking {source f : Format} {supported : List Format} :
    f ∈ ranking source supported ↔ BuiltIn source f ∨ f ∈ supported := by
  rw [ranking_eq, List.mem_append, List.mem_append]
  constructor
  · rintro (hsame | hother | hreported)
    · exact .inl (rate_of_atRate hsame).1
    · exact .inl (rate_of_atOtherRates hother).1
    · exact .inr hreported
  · rintro (hbuilt | hreported)
    · rcases mem_of_builtIn hbuilt with hsame | hother
      · exact .inl hsame
      · exact .inr (.inl hother)
    · exact .inr (.inr hreported)

theorem head?_firstOnly (f : Format) (rest : List Format) :
    (firstOnly (f :: rest)).head? = some f := by
  obtain ⟨fresh, heq, _⟩ := firstOnly_append [f] rest
  rw [← List.singleton_append, heq]
  rfl

/-- **The ranking falls into its three parts**, whatever is left out of it. -/
theorem split_ranking (source : Format) (supported : List Format) (keep : Format → Bool) :
    ∃ same other rest,
      firstOnly ((ranking source supported).filter keep) = same ++ (other ++ rest)
        ∧ (∀ f ∈ same, BuiltIn source f ∧ f.rate = source.rate)
        ∧ (∀ f ∈ other, BuiltIn source f ∧ f.rate ≠ source.rate)
        ∧ ∀ f ∈ rest, ¬ BuiltIn source f := by
  -- What is new in each part is what does not stand in the parts in front of it.
  obtain ⟨rest, hrest, hreported⟩ := firstOnly_append
    ((atRate source ++ atOtherRates source).filter keep) (supported.filter keep)
  obtain ⟨other, hother, hlater⟩ := firstOnly_append
    ((atRate source).filter keep) ((atOtherRates source).filter keep)
  rw [ranking_eq, ← List.append_assoc, List.filter_append, hrest, List.filter_append, hother,
    List.append_assoc]
  refine ⟨_, other, rest, rfl, fun f hf => ?_, fun f hf => ?_, fun f hf hbuilt => ?_⟩
  · exact rate_of_atRate (List.mem_filter.mp (mem_firstOnly.mp hf)).1
  · exact rate_of_atOtherRates (List.mem_filter.mp (hlater f hf).1).1
  · -- A reported format that is built in as well stands further in front already.
    obtain ⟨hfound, hnew⟩ := hreported f hf
    exact hnew (List.mem_filter.mpr
      ⟨List.mem_append.mpr (mem_of_builtIn hbuilt), (List.mem_filter.mp hfound).2⟩)

/-- **There is a ranking for every source whose frames fit**, and it is as it should be. -/
theorem ranked_candidates? {source : Format} (hsupported : source.isSupported = true)
    (hchannels : 4 * source.channels ≤ 65535) (supported : List Format) :
    ∃ candidates, candidates? source supported = some candidates
      ∧ Ranked source supported candidates := by
  have hfit : layoutsFit source.channels = true := layoutsFit_iff.mpr (by omega)
  have hmem : ∀ f, f ∈ firstOnly ((ranking source supported).filter (proposable source.channels))
      ↔ (BuiltIn source f ∨ f ∈ supported) ∧ f.isSupported = true ∧ f.channels = source.channels := by
    intro f
    rw [mem_firstOnly, List.mem_filter, mem_ranking, proposable_iff]
  refine ⟨_, by unfold candidates?; rw [if_pos hfit], ?_, nodup_firstOnly _,
    fun f hf => ((hmem f).mp hf).2, split_ranking source supported _, fun f hs hc => ?_⟩
  · -- The source is the first of all, and passes the filter.
    have hpass : proposable source.channels source = true := proposable_iff.mpr ⟨hsupported, rfl⟩
    rw [ranking_eq]
    show (firstOnly ((source :: _).filter _)).head? = _
    rw [List.filter_cons_of_pos hpass]
    exact head?_firstOnly source _
  · rw [hmem f]
    exact and_iff_left ⟨hs, hc⟩

/-! ## §3. Asking. -/

variable {σ : Type} [Host σ]

/-- A device rejects some formats one after the other, and these are all that is asked of it. -/
inductive Rejects (device : String) (buffer : Duration) : σ → List Format → σ → Prop
  | nil (host : σ) : Rejects device buffer host [] host
  | cons {host next last : σ} {f : Format} {rest : List Format} {reason : String}
      (rejected : Host.activate host device f buffer = (.error (.formatRejected reason), next))
      (others : Rejects device buffer next rest last) : Rejects device buffer host (f :: rest) last

/-- How asking a device for some candidates ends; `exhausted` is the answer if none of them is left. -/
inductive Asked (host : σ) (device : String) (source : Format) (buffer : Duration)
    (exhausted : Except Fault Endpoint) (candidates : List Format) : Negotiated σ → Prop
  /-- The device takes a candidate, in an endpoint with the channels of the source. -/
  | taken {front back : List Format} {f : Format} {before after : σ} {endpoint : Endpoint}
      (log : List LogLine) (split : candidates = front ++ f :: back)
      (rejected : Rejects device buffer host front before)
      (activated : Host.activate before device f buffer = (.ok endpoint, after))
      (channels : endpoint.format.channels = source.channels) :
      Asked host device source buffer exhausted candidates
        { result := .ok endpoint, tried := front ++ [f], host := after, log }
  /-- It takes one, but with other channels; the endpoint is given back. -/
  | unfit {front back : List Format} {f : Format} {before after : σ} {endpoint : Endpoint}
      (log : List LogLine) (split : candidates = front ++ f :: back)
      (rejected : Rejects device buffer host front before)
      (activated : Host.activate before device f buffer = (.ok endpoint, after))
      (channels : endpoint.format.channels ≠ source.channels) :
      Asked host device source buffer exhausted candidates
        { result := .error (.error (.initFailed device
            s!"device renders {endpoint.format.channels} channels, source has {source.channels}"))
          tried := front ++ [f], host := Host.release after endpoint, log }
  /-- It fails on one for another reason than its format. -/
  | failed {front back : List Format} {f : Format} {before after : σ} {cause : RenderError}
      (log : List LogLine) (split : candidates = front ++ f :: back)
      (rejected : Rejects device buffer host front before)
      (activated : Host.activate before device f buffer = (.error cause, after))
      (other : ∀ reason, cause ≠ .formatRejected reason) :
      Asked host device source buffer exhausted candidates
        { result := .error (.error (.initFailed device cause.message))
          tried := front ++ [f], host := after, log }
  /-- It rejects all of them. -/
  | exhausted {last : σ} (log : List LogLine)
      (rejected : Rejects device buffer host candidates last) :
      Asked host device source buffer exhausted candidates
        { result := exhausted, tried := candidates, host := last, log }

section Asking

variable {host next : σ} {device reason : String} {source : Format} {buffer : Duration}
  {exhausted : Except Fault Endpoint} {candidates : List Format} {done : Negotiated σ}

/-- What is reported beside does not matter. -/
theorem Asked.reporting (h : Asked host device source buffer exhausted candidates done)
    (log : List LogLine) :
    Asked host device source buffer exhausted candidates { done with log } := by
  cases h with
  | taken _ hsplit hrejected hactivated hchannels =>
      exact .taken log hsplit hrejected hactivated hchannels
  | unfit _ hsplit hrejected hactivated hchannels =>
      exact .unfit log hsplit hrejected hactivated hchannels
  | failed _ hsplit hrejected hactivated hother =>
      exact .failed log hsplit hrejected hactivated hother
  | exhausted _ hrejected => exact .exhausted log hrejected

/-- **A rejected candidate is one more in front.** -/
theorem Asked.behind {f : Format}
    (hrejected : Host.activate host device f buffer = (.error (.formatRejected reason), next))
    (h : Asked next device source buffer exhausted candidates done) :
    Asked host device source buffer exhausted (f :: candidates)
      { done with tried := f :: done.tried } := by
  cases h with
  | @taken front back g _ _ _ log hsplit hfront hactivated hchannels =>
      have hlonger : f :: candidates = (f :: front) ++ g :: back := congrArg (f :: ·) hsplit
      exact .taken log hlonger (.cons hrejected hfront) hactivated hchannels
  | @unfit front back g _ _ _ log hsplit hfront hactivated hchannels =>
      have hlonger : f :: candidates = (f :: front) ++ g :: back := congrArg (f :: ·) hsplit
      exact .unfit log hlonger (.cons hrejected hfront) hactivated hchannels
  | @failed front back g _ _ _ log hsplit hfront hactivated hother =>
      have hlonger : f :: candidates = (f :: front) ++ g :: back := congrArg (f :: ·) hsplit
      exact .failed log hlonger (.cons hrejected hfront) hactivated hother
  | exhausted log hall => exact .exhausted log (.cons hrejected hall)

theorem asked_ask (device : String) (source : Format) (buffer : Duration)
    (exhausted : Except Fault Endpoint) (candidates : List Format) : ∀ host : σ,
      Asked host device source buffer exhausted candidates
        (ask device source buffer exhausted host candidates) := by
  induction candidates with
  | nil =>
      intro host
      exact .exhausted [] (.nil host)
  | cons f rest ih =>
      intro host
      unfold ask
      split
      next endpoint after hactivated =>
        unfold accept
        by_cases hchannels : endpoint.format.channels = source.channels
        · rw [if_pos hchannels]
          exact .taken _ (List.nil_append _).symm (.nil host) hactivated hchannels
        · rw [if_neg hchannels]
          exact .unfit _ (List.nil_append _).symm (.nil host) hactivated hchannels
      next reason next hrejected => exact (ih next).behind hrejected
      next cause after hother hactivated =>
        exact .failed [] (List.nil_append _).symm (.nil host) hactivated hother

/-- **A negotiation goes through the ranking**, made of what the device reports, or of nothing if it
does not answer. -/
theorem asked_negotiate {supported : List Format} (hsupported : source.isSupported = true)
    (hquery : Host.supportedFormats host device = .ok supported
      ∨ (∃ e, Host.supportedFormats host device = .error e) ∧ supported = [])
    (hcandidates : candidates? source supported = some candidates) :
    Asked host device source buffer
      (refusal device s!"none of {candidates.length} candidate formats for {source.text} accepted")
      candidates (negotiate host device source buffer) := by
  have hknown : (knownFormats host device).1 = supported := by
    unfold knownFormats
    rcases hquery with hok | ⟨⟨e, herror⟩, rfl⟩
    · rw [hok]
    · rw [herror]
  unfold negotiate
  rw [if_pos hsupported]
  dsimp only
  rw [hknown, hcandidates]
  exact (asked_ask device source buffer _ candidates host).reporting _

/-- The formats that were asked for are the first ones of the ranking. -/
theorem Asked.tried_prefix (h : Asked host device source buffer exhausted candidates done) :
    done.tried <+: candidates := by
  cases h with
  | @taken front back f _ _ _ _ hsplit =>
      exact ⟨back, by rw [hsplit, List.append_assoc]; rfl⟩
  | @unfit front back f _ _ _ _ hsplit =>
      exact ⟨back, by rw [hsplit, List.append_assoc]; rfl⟩
  | @failed front back f _ _ _ _ hsplit =>
      exact ⟨back, by rw [hsplit, List.append_assoc]; rfl⟩
  | exhausted => exact List.prefix_refl _

end Asking

/-- **A device is asked for the best formats first, for each of them once, and for no more than it
rejects.**  For a source that can be encoded, with frames that fit, and whatever the device reports:
the ranking begins with the source, holds no format twice, holds only what can be encoded with the
channels of the source, holds the built-in formats at the rate of the source in front of those at
other rates, and all that is reported and fits.  A negotiation asks along this ranking and goes on
exactly behind a rejection.  The first endpoint ends it, as the answer if it has the channels of the
source; the first other failure ends it; and with everything rejected it ends behind the last
candidate. -/
theorem devices_are_asked_in_order (σ : Type) [Host σ] {source : Format}
    (hsupported : source.isSupported = true) (hchannels : 4 * source.channels ≤ 65535)
    (supported : List Format) :
    ∃ candidates, candidates? source supported = some candidates
      ∧ Ranked source supported candidates
      ∧ ∀ (host : σ) (device : String) (buffer : Duration),
        (Host.supportedFormats host device = .ok supported
          ∨ (∃ e, Host.supportedFormats host device = .error e) ∧ supported = []) →
        Asked host device source buffer
            (refusal device
              s!"none of {candidates.length} candidate formats for {source.text} accepted")
            candidates (negotiate host device source buffer)
          ∧ (negotiate host device source buffer).tried <+: candidates
          ∧ (negotiate host device source buffer).tried.Nodup := by
  obtain ⟨candidates, hcandidates, hranked⟩ := ranked_candidates? hsupported hchannels supported
  refine ⟨candidates, hcandidates, hranked, fun host device buffer hquery => ?_⟩
  have hasked : Asked host device source buffer _ candidates
      (negotiate host device source buffer) := asked_negotiate hsupported hquery hcandidates
  have htried := hasked.tried_prefix
  exact ⟨hasked, htried, hranked.once.sublist htried.sublist⟩

/-- A speaker that renders one common format, and reports one with too many channels besides. -/
def floatSpeaker : DeviceBank where
  devices :=
    [{ id := "speaker"
       name := "Speaker"
       bufferFrames := 960
       accepted := some [Format.pcm 22050 16 6, Format.float 48000 2] }]

/-- Seven formats are rejected before the speaker takes the eighth. -/
theorem devices_are_asked_in_order_floatSpeaker :
    (Format.pcm 44100 16 2).isSupported = true ∧ 4 * (Format.pcm 44100 16 2).channels ≤ 65535
      ∧ Host.supportedFormats floatSpeaker "speaker"
        = .ok [Format.pcm 22050 16 6, Format.float 48000 2]
      ∧ ∃ candidates,
        Ranked (Format.pcm 44100 16 2) [Format.pcm 22050 16 6, Format.float 48000 2] candidates
        ∧ (negotiate floatSpeaker "speaker" (Format.pcm 44100 16 2) Duration.zero).tried <+: candidates
        ∧ (negotiate floatSpeaker "speaker" (Format.pcm 44100 16 2) Duration.zero).tried
          = [Format.pcm 44100 16 2, Format.pcm 44100 24 2, Format.pcm 44100 32 2,
            Format.float 44100 2, Format.pcm 48000 16 2, Format.pcm 48000 24 2,
            Format.pcm 48000 32 2, Format.float 48000 2] := by
  have hsupported : (Format.pcm 44100 16 2).isSupported = true := by decide
  have hchannels : 4 * (Format.pcm 44100 16 2).channels ≤ 65535 := by decide
  have hquery : Host.supportedFormats floatSpeaker "speaker"
      = .ok [Format.pcm 22050 16 6, Format.float 48000 2] := rfl
  obtain ⟨candidates, _, hranked, hasked⟩ := devices_are_asked_in_order DeviceBank hsupported
    hchannels [Format.pcm 22050 16 6, Format.float 48000 2]
  obtain ⟨_, htried, _⟩ := hasked floatSpeaker "speaker" Duration.zero (.inl hquery)
  exact ⟨hsupported, hchannels, hquery, candidates, hranked, htried, by decide +kernel⟩

end Negotiation

end PcmRender
