import Yeti.Framework.Numbering
import Yeti.Sdp.Answer
import Yeti.Sdp.Offer

/-! # The numbers of payloads

    Model of `fix_dynamic_payloads` and of `PayloadIdMapping`, which remembers the
    numbers from one SDP to the next.

    Within an audio line the loop is a numbering of the payloads as in
    `Yeti.Framework.Numbering`: a payload wishes for the number that it came with, or
    else for the remembered one.  So what is left is to keep the lines apart, which
    share the mapping.
-/

namespace Yeti.Sdp

open Numbering

/-! ### Model -/

/-- `PayloadMask`, a set of payload numbers. -/
abbrev PayloadMask := Finset ℤ

/-- `MAP_INDEXES`. -/
def MAP_INDEXES (stream_idx payload_idx : ℕ) : ℕ := stream_idx * 128 + payload_idx

/-- `class PayloadIdMapping`. -/
@[ext]
structure PayloadIdMapping where
  mapping : ℕ → Option ℤ

namespace PayloadIdMapping

/-- `PayloadIdMapping::map`. -/
def map (m : PayloadIdMapping) (stream_index payload_index : ℕ) (payload_id : ℤ) :
    PayloadIdMapping where
  mapping key :=
    if key = MAP_INDEXES stream_index payload_index then some payload_id else m.mapping key

/-- `PayloadIdMapping::get`. -/
def get (m : PayloadIdMapping) (stream_index payload_index : ℕ) : ℤ :=
  (m.mapping (MAP_INDEXES stream_index payload_index)).getD (-1)

theorem mapping_map (m : PayloadIdMapping) (stream_index payload_index : ℕ) (payload_id : ℤ)
    (key : ℕ) : (m.map stream_index payload_index payload_id).mapping key =
      if key = MAP_INDEXES stream_index payload_index then some payload_id
      else m.mapping key := rfl

end PayloadIdMapping

/-- The number that a payload comes with, or else the remembered one. -/
def requested (mapping : PayloadIdMapping) (stream_idx idx : ℕ) (i : SdpPayload) : ℤ :=
  if i.payload_type < 0 then mapping.get stream_idx idx else i.payload_type

/-- The variables of the loop over the payloads of a line. -/
structure NumberState where
  id : ℤ
  used_payloads : PayloadMask
  mapping : PayloadIdMapping

/-- The loop body, for the payload at `idx`. -/
def fixPayload (pseudo_dyn_payloads : PayloadMask) (stream_idx idx : ℕ) (s : NumberState)
    (i : SdpPayload) : SdpPayload × NumberState :=
  let pid := requested s.mapping stream_idx idx i
  if pid < 0 ∨ pid ∈ s.used_payloads then
    -- `while(used_payloads.get(id) || pseudo_dyn_payloads.get(id)) id++`
    let id := firstFree (s.used_payloads ∪ pseudo_dyn_payloads) s.id
    ({ i with payload_type := id },
      ⟨id, insert id s.used_payloads, s.mapping.map stream_idx idx id⟩)
  else
    ({ i with payload_type := pid },
      ⟨s.id, insert pid s.used_payloads, s.mapping.map stream_idx idx pid⟩)

/-- The loop over the payloads from `idx` on. -/
def fixPayloads (pseudo_dyn_payloads : PayloadMask) (stream_idx : ℕ) :
    ℕ → NumberState → List SdpPayload → List SdpPayload × PayloadIdMapping
  | _, s, [] => ([], s.mapping)
  | idx, s, i :: payloads =>
    let r := fixPayload pseudo_dyn_payloads stream_idx idx s i
    let rest := fixPayloads pseudo_dyn_payloads stream_idx (idx + 1) r.2 payloads
    (r.1 :: rest.1, rest.2)

/-- `pseudo_dyn_payloads`: the numbers from 96 on that payloads come with. -/
def pseudoDyn (payloads : List SdpPayload) : PayloadMask :=
  ((payloads.map (·.payload_type)).filter (DYNAMIC_PAYLOAD_TYPE_START ≤ ·)).toFinset

/-- An audio line. -/
def fixLine (stream_idx : ℕ) (mapping : PayloadIdMapping) (m : SdpMedia) :
    SdpMedia × PayloadIdMapping :=
  let r := fixPayloads (pseudoDyn m.payloads) stream_idx 0
    ⟨DYNAMIC_PAYLOAD_TYPE_START, ∅, mapping⟩ m.payloads
  ({ m with payloads := r.1 }, r.2)

/-- The loop over the lines; `stream_idx` counts the audio lines. -/
def fixLines : ℕ → PayloadIdMapping → List SdpMedia → List SdpMedia × PayloadIdMapping
  | _, mapping, [] => ([], mapping)
  | stream_idx, mapping, m :: media =>
    if m.type = .MT_Audio then
      let r := fixLine stream_idx mapping m
      let rest := fixLines (stream_idx + 1) r.2 media
      (r.1 :: rest.1, rest.2)
    else
      let rest := fixLines stream_idx mapping media
      (m :: rest.1, rest.2)

/-- `fix_dynamic_payloads`. -/
def fix_dynamic_payloads (sdp : AmSdp) (mapping : PayloadIdMapping) : AmSdp × PayloadIdMapping :=
  let r := fixLines 0 mapping sdp.media
  ({ sdp with media := r.1 }, r.2)

/-! ### What is claimed -/

/-- An SDP and a mapping with numbers in range, and lines that are not too long. -/
structure Numberable (sdp : AmSdp) (mapping : PayloadIdMapping) : Prop where
  few : ∀ m ∈ audioLines sdp.media, m.payloads.length ≤ 32
  types : ∀ m ∈ audioLines sdp.media, ∀ p ∈ m.payloads, p.payload_type ≤ 127
  values : ∀ key, ∀ payload_id ∈ mapping.mapping key, 0 ≤ payload_id ∧ payload_id ≤ 127

/-- The payloads are numbered, and the mapping remembers their numbers. -/
structure Numbered (sdp : AmSdp) (mapping : PayloadIdMapping) (sdp' : AmSdp)
    (mapping' : PayloadIdMapping) : Prop where
  distinct : ∀ m ∈ audioLines sdp'.media, (m.payloads.map (·.payload_type)).Nodup
  range : ∀ m ∈ audioLines sdp'.media, ∀ p ∈ m.payloads,
    0 ≤ p.payload_type ∧ p.payload_type ≤ 127
  /-- A number that a payload comes with and that no payload before it requests is kept. -/
  keeps : ∀ stream_idx m, (audioLines sdp.media)[stream_idx]? = some m →
    ∃ m', (audioLines sdp'.media)[stream_idx]? = some m' ∧
      ∀ idx p, m.payloads[idx]? = some p → 0 ≤ p.payload_type →
        (∀ j q, j < idx → m.payloads[j]? = some q →
          requested mapping stream_idx j q ≠ p.payload_type) →
        (m'.payloads[idx]?).map (·.payload_type) = some p.payload_type
  records : ∀ stream_idx m', (audioLines sdp'.media)[stream_idx]? = some m' →
    ∀ idx p', m'.payloads[idx]? = some p' → mapping'.get stream_idx idx = p'.payload_type
  again : fix_dynamic_payloads sdp' mapping' = (sdp', mapping')

/-! ### A line as a numbering -/

/-- What a payload wishes for: none if it requests no number. -/
def wish (pid : ℤ) : Option ℤ := if pid < 0 then none else some pid

/-- The wishes of the payloads from `idx` on. -/
def wishes (mapping : PayloadIdMapping) (stream_idx : ℕ) : ℕ → List SdpPayload → List (Option ℤ)
  | _, [] => []
  | idx, p :: payloads =>
    wish (requested mapping stream_idx idx p) :: wishes mapping stream_idx (idx + 1) payloads

/-- The payloads with these numbers. -/
def withNumbers (payloads : List SdpPayload) (numbers : List ℤ) : List SdpPayload :=
  List.zipWith (fun p n => { p with payload_type := n }) payloads numbers

/-- A mapping that remembers the numbers from a key on. -/
def remember (mapping : PayloadIdMapping) (key : ℕ) (numbers : List ℤ) : PayloadIdMapping where
  mapping k := if key ≤ k then (numbers[k - key]?).or (mapping.mapping k) else mapping.mapping k

theorem mapping_remember (mapping : PayloadIdMapping) (key : ℕ) (numbers : List ℤ) (k : ℕ) :
    (remember mapping key numbers).mapping k =
      if key ≤ k then (numbers[k - key]?).or (mapping.mapping k) else mapping.mapping k := rfl

theorem mem_wish_iff {pid n : ℤ} : n ∈ wish pid ↔ pid = n ∧ 0 ≤ n := by
  unfold wish
  split_ifs with hneg
  · simp only [Option.mem_def, reduceCtorEq, false_iff]
    omega
  · simp only [Option.mem_def, Option.some.injEq]
    omega

/-- A payload with a number wishes for it, whatever is remembered. -/
theorem wish_of_numbered (mapping : PayloadIdMapping) (stream_idx idx : ℕ) {p : SdpPayload}
    (hpos : 0 ≤ p.payload_type) :
    wish (requested mapping stream_idx idx p) = some p.payload_type := by
  have hrequested : requested mapping stream_idx idx p = p.payload_type := if_neg (by omega)
  rw [hrequested]
  exact mem_wish_iff.mpr ⟨rfl, hpos⟩

theorem remember_cons (mapping : PayloadIdMapping) (stream_idx idx : ℕ) (n : ℤ)
    (numbers : List ℤ) :
    remember mapping (MAP_INDEXES stream_idx idx) (n :: numbers) =
      remember (mapping.map stream_idx idx n) (MAP_INDEXES stream_idx (idx + 1)) numbers := by
  have hkey : MAP_INDEXES stream_idx (idx + 1) = MAP_INDEXES stream_idx idx + 1 := rfl
  ext1
  funext k
  rw [mapping_remember, mapping_remember, PayloadIdMapping.mapping_map, hkey]
  rcases Nat.lt_trichotomy k (MAP_INDEXES stream_idx idx) with hlt | heq | hgt
  · rw [if_neg (by omega), if_neg (by omega), if_neg (by omega)]
  · subst heq
    rw [if_pos (Nat.le_refl _), if_neg (by omega), if_pos rfl, Nat.sub_self]
    rfl
  · have hsub : k - MAP_INDEXES stream_idx idx = (k - (MAP_INDEXES stream_idx idx + 1)) + 1 := by
      omega
    rw [if_pos (by omega), if_pos (by omega), if_neg (by omega), hsub, List.getElem?_cons_succ]

/-- What is written for a payload is not read for a later one. -/
theorem wishes_map (mapping : PayloadIdMapping) (stream_idx : ℕ) {idx idx' : ℕ}
    (hlt : idx < idx') (n : ℤ) (payloads : List SdpPayload) :
    wishes (mapping.map stream_idx idx n) stream_idx idx' payloads =
      wishes mapping stream_idx idx' payloads := by
  induction payloads generalizing idx' with
  | nil => rfl
  | cons p payloads ih =>
    have hget : (mapping.map stream_idx idx n).get stream_idx idx' =
        mapping.get stream_idx idx' := by
      have hne : MAP_INDEXES stream_idx idx' ≠ MAP_INDEXES stream_idx idx := by
        unfold MAP_INDEXES
        omega
      rw [PayloadIdMapping.get, PayloadIdMapping.mapping_map, if_neg hne]
      rfl
    rw [wishes, wishes, ih (Nat.lt_succ_of_lt hlt), requested, requested, hget]

/-- The loop body gives the payload its number. -/
theorem fixPayload_eq (pseudo_dyn_payloads : PayloadMask) (stream_idx idx : ℕ) (s : NumberState)
    (i : SdpPayload) :
    fixPayload pseudo_dyn_payloads stream_idx idx s i =
      let given := give pseudo_dyn_payloads s.used_payloads s.id
        (wish (requested s.mapping stream_idx idx i))
      ({ i with payload_type := given.1 },
        ⟨given.2, insert given.1 s.used_payloads, s.mapping.map stream_idx idx given.1⟩) := by
  unfold fixPayload
  by_cases hneg : requested s.mapping stream_idx idx i < 0
  · simp [give, wish, hneg]
  · by_cases hused : requested s.mapping stream_idx idx i ∈ s.used_payloads
    · simp [give, wish, hneg, hused, Option.filter]
    · simp [give, wish, hneg, hused, Option.filter]

theorem fixPayloads_eq (pseudo_dyn_payloads : PayloadMask) (stream_idx idx : ℕ) (s : NumberState)
    (payloads : List SdpPayload) :
    fixPayloads pseudo_dyn_payloads stream_idx idx s payloads =
      (withNumbers payloads (giveAll pseudo_dyn_payloads s.used_payloads s.id
          (wishes s.mapping stream_idx idx payloads)),
        remember s.mapping (MAP_INDEXES stream_idx idx) (giveAll pseudo_dyn_payloads
          s.used_payloads s.id (wishes s.mapping stream_idx idx payloads))) := by
  induction payloads generalizing idx s with
  | nil => simp [fixPayloads, withNumbers, wishes, giveAll, remember]
  | cons i payloads ih =>
    rw [fixPayloads, fixPayload_eq]
    dsimp only
    rw [ih]
    dsimp only
    rw [wishes_map _ _ (Nat.lt_succ_self idx), wishes, giveAll, remember_cons]
    rfl

/-- The numbers of a line. -/
def numbers (mapping : PayloadIdMapping) (stream_idx : ℕ) (m : SdpMedia) : List ℤ :=
  giveAll (pseudoDyn m.payloads) ∅ DYNAMIC_PAYLOAD_TYPE_START (wishes mapping stream_idx 0 m.payloads)

theorem fixLine_eq (stream_idx : ℕ) (mapping : PayloadIdMapping) (m : SdpMedia) :
    fixLine stream_idx mapping m =
      ({ m with payloads := withNumbers m.payloads (numbers mapping stream_idx m) },
        remember mapping (MAP_INDEXES stream_idx 0) (numbers mapping stream_idx m)) := by
  rw [fixLine, fixPayloads_eq]
  rfl

theorem getElem?_wishes (mapping : PayloadIdMapping) (stream_idx idx : ℕ)
    (payloads : List SdpPayload) (j : ℕ) :
    (wishes mapping stream_idx idx payloads)[j]? =
      (payloads[j]?).map fun p => wish (requested mapping stream_idx (idx + j) p) := by
  induction payloads generalizing idx j with
  | nil => rfl
  | cons p payloads ih =>
    rw [wishes]
    cases j with
    | zero => rfl
    | succ j =>
      have hidx : idx + 1 + j = idx + (j + 1) := by omega
      rw [List.getElem?_cons_succ, List.getElem?_cons_succ, ih, hidx]

theorem length_wishes (mapping : PayloadIdMapping) (stream_idx idx : ℕ)
    (payloads : List SdpPayload) :
    (wishes mapping stream_idx idx payloads).length = payloads.length := by
  induction payloads generalizing idx with
  | nil => rfl
  | cons p payloads ih => rw [wishes, List.length_cons, List.length_cons, ih]

theorem length_numbers (mapping : PayloadIdMapping) (stream_idx : ℕ) (m : SdpMedia) :
    (numbers mapping stream_idx m).length = m.payloads.length := by
  rw [numbers, length_giveAll, length_wishes]

/-- The numbers of a line depend on what is remembered for its own payloads only. -/
theorem wishes_congr {mapping mapping' : PayloadIdMapping} {stream_idx idx : ℕ}
    {payloads : List SdpPayload}
    (h : ∀ j, j < payloads.length → mapping.mapping (MAP_INDEXES stream_idx (idx + j)) =
      mapping'.mapping (MAP_INDEXES stream_idx (idx + j))) :
    wishes mapping stream_idx idx payloads = wishes mapping' stream_idx idx payloads := by
  induction payloads generalizing idx with
  | nil => rfl
  | cons p payloads ih =>
    have hget : mapping.get stream_idx idx = mapping'.get stream_idx idx :=
      congrArg (·.getD (-1)) (h 0 (Nat.zero_lt_succ _))
    have hrest : wishes mapping stream_idx (idx + 1) payloads =
        wishes mapping' stream_idx (idx + 1) payloads := by
      refine ih ?_
      intro j hj
      have hidx : idx + 1 + j = idx + (j + 1) := by omega
      rw [hidx]
      exact h (j + 1) (Nat.succ_lt_succ hj)
    rw [wishes, wishes, requested, requested, hget, hrest]

theorem map_withNumbers {payloads : List SdpPayload} {ns : List ℤ}
    (h : ns.length = payloads.length) :
    (withNumbers payloads ns).map (·.payload_type) = ns := by
  induction payloads generalizing ns with
  | nil => rw [List.eq_nil_of_length_eq_zero h]; rfl
  | cons p payloads ih =>
    cases ns with
    | nil => cases h
    | cons n ns =>
      have hlength : ns.length = payloads.length := by simpa using h
      exact congrArg (n :: ·) (ih hlength)

/-- Payloads with the numbers that they have. -/
theorem withNumbers_self (payloads : List SdpPayload) :
    withNumbers payloads (payloads.map (·.payload_type)) = payloads := by
  induction payloads with
  | nil => rfl
  | cons p payloads ih => exact congrArg (p :: ·) ih

/-! ### One line -/

theorem mem_pseudoDyn {payloads : List SdpPayload} {n : ℤ} :
    n ∈ pseudoDyn payloads ↔
      DYNAMIC_PAYLOAD_TYPE_START ≤ n ∧ ∃ p ∈ payloads, p.payload_type = n := by
  simp [pseudoDyn, and_comm]

theorem get_le {mapping : PayloadIdMapping}
    (hvalues : ∀ key, ∀ payload_id ∈ mapping.mapping key, 0 ≤ payload_id ∧ payload_id ≤ 127)
    (stream_idx idx : ℕ) : mapping.get stream_idx idx ≤ 127 := by
  unfold PayloadIdMapping.get
  cases hget : mapping.mapping (MAP_INDEXES stream_idx idx) with
  | none => decide
  | some payload_id => exact (hvalues _ payload_id hget).2

theorem numbers_nodup (mapping : PayloadIdMapping) (stream_idx : ℕ) (m : SdpMedia) :
    (numbers mapping stream_idx m).Nodup :=
  giveAll_nodup _

/-- The numbers that payloads come with are wished for. -/
theorem wishes_of_payload {mapping : PayloadIdMapping} {stream_idx : ℕ}
    {payloads : List SdpPayload} {p : SdpPayload} (hp : p ∈ payloads)
    (hpos : 0 ≤ p.payload_type) :
    some p.payload_type ∈ wishes mapping stream_idx 0 payloads := by
  obtain ⟨j, hj⟩ := List.mem_iff_getElem?.mp hp
  refine List.mem_iff_getElem?.mpr ⟨j, ?_⟩
  rw [getElem?_wishes, hj, Option.map_some, wish_of_numbered mapping stream_idx (0 + j) hpos]

/-- The numbers of a line that is not too long are in range. -/
theorem numbers_range {mapping : PayloadIdMapping} {stream_idx : ℕ} {m : SdpMedia}
    (hfew : m.payloads.length ≤ 32) (htypes : ∀ p ∈ m.payloads, p.payload_type ≤ 127)
    (hvalues : ∀ key, ∀ payload_id ∈ mapping.mapping key, 0 ≤ payload_id ∧ payload_id ≤ 127)
    {n : ℤ} (hn : n ∈ numbers mapping stream_idx m) : 0 ≤ n ∧ n ≤ 127 := by
  have hreserved : ∀ n ∈ pseudoDyn m.payloads, some n ∈ wishes mapping stream_idx 0 m.payloads := by
    intro n hn
    obtain ⟨hle, p, hp, rfl⟩ := mem_pseudoDyn.mp hn
    have hstart : DYNAMIC_PAYLOAD_TYPE_START = 96 := rfl
    exact wishes_of_payload hp (by omega)
  rcases (counted_start DYNAMIC_PAYLOAD_TYPE_START hreserved).giveAll_mem hn with hwish | ⟨hle, hlt⟩
  · obtain ⟨j, hj⟩ := List.mem_iff_getElem?.mp hwish
    rw [getElem?_wishes] at hj
    obtain ⟨p, hp, hpn⟩ := Option.map_eq_some_iff.mp hj
    obtain ⟨rfl, hpos⟩ := mem_wish_iff.mp hpn
    refine ⟨hpos, ?_⟩
    unfold requested
    split_ifs with hneg
    · exact get_le hvalues stream_idx (0 + j)
    · exact htypes p (List.mem_of_getElem? hp)
  · rw [length_wishes] at hlt
    have hstart : DYNAMIC_PAYLOAD_TYPE_START = 96 := rfl
    constructor <;> omega

/-- A number that no earlier payload requests is kept. -/
theorem numbers_keeps {mapping : PayloadIdMapping} {stream_idx : ℕ} {m : SdpMedia} {idx : ℕ}
    {p : SdpPayload} (hp : m.payloads[idx]? = some p) (hpos : 0 ≤ p.payload_type)
    (hearlier : ∀ j q, j < idx → m.payloads[j]? = some q →
      requested mapping stream_idx j q ≠ p.payload_type) :
    (numbers mapping stream_idx m)[idx]? = some p.payload_type := by
  have hwish := wish_of_numbered mapping stream_idx (0 + idx) hpos
  refine giveAll_getElem? ?_ (Finset.notMem_empty _) ?_ ?_
  · rw [getElem?_wishes, hp, Option.map_some, hwish]
  · intro hmem
    obtain ⟨j, hj⟩ := List.mem_iff_getElem?.mp hmem
    rw [List.getElem?_take] at hj
    split_ifs at hj with hlt
    rw [getElem?_wishes] at hj
    obtain ⟨q, hq, hqn⟩ := Option.map_eq_some_iff.mp hj
    rw [Nat.zero_add] at hqn
    exact hearlier j q hlt hq (mem_wish_iff.mp hqn).1
  · -- the counter starts at 96 and steps over the numbers that payloads come with
    by_cases hdyn : DYNAMIC_PAYLOAD_TYPE_START ≤ p.payload_type
    · exact .inr (mem_pseudoDyn.mpr ⟨hdyn, p, List.mem_of_getElem? hp, rfl⟩)
    · exact .inl (by omega)

/-- The line is numbered, and the mapping remembers its numbers. -/
structure Settled (mapping : PayloadIdMapping) (stream_idx : ℕ) (m : SdpMedia) : Prop where
  distinct : (m.payloads.map (·.payload_type)).Nodup
  numbered : ∀ p ∈ m.payloads, 0 ≤ p.payload_type
  remembered : ∀ idx p, m.payloads[idx]? = some p →
    mapping.mapping (MAP_INDEXES stream_idx idx) = some p.payload_type

/-- A settled line keeps its numbers. -/
theorem Settled.numbers_eq {mapping : PayloadIdMapping} {stream_idx : ℕ} {m : SdpMedia}
    (h : Settled mapping stream_idx m) :
    numbers mapping stream_idx m = m.payloads.map (·.payload_type) := by
  have hwishes : wishes mapping stream_idx 0 m.payloads =
      (m.payloads.map (·.payload_type)).map some := by
    refine List.ext_getElem? ?_
    intro j
    rw [getElem?_wishes, List.getElem?_map, List.getElem?_map, Option.map_map]
    refine Option.map_congr ?_
    intro p hp
    have hpos := h.numbered p (List.mem_of_getElem? hp)
    exact wish_of_numbered mapping stream_idx (0 + j) hpos
  rw [numbers, hwishes]
  exact giveAll_of_nodup h.distinct fun n _ => Finset.notMem_empty n

theorem Settled.fixLine_eq {mapping : PayloadIdMapping} {stream_idx : ℕ} {m : SdpMedia}
    (h : Settled mapping stream_idx m) : fixLine stream_idx mapping m = (m, mapping) := by
  have hmapping : remember mapping (MAP_INDEXES stream_idx 0)
      (m.payloads.map (·.payload_type)) = mapping := by
    ext1
    funext key
    rw [mapping_remember]
    split_ifs with hle
    · rw [List.getElem?_map]
      cases hp : m.payloads[key - MAP_INDEXES stream_idx 0]? with
      | none => rfl
      | some p =>
        have hremembered := h.remembered _ p hp
        have hkey : MAP_INDEXES stream_idx (key - MAP_INDEXES stream_idx 0) = key := by
          unfold MAP_INDEXES at hle ⊢
          omega
        rw [hkey] at hremembered
        rw [hremembered]
        rfl
    · rfl
  rw [Sdp.fixLine_eq, h.numbers_eq, withNumbers_self, hmapping]

/-! ### All lines -/

/-- The lines from `stream_idx` on leave what is remembered for those before. -/
theorem fixLines_before {stream_idx : ℕ} (mapping : PayloadIdMapping) (media : List SdpMedia)
    {key : ℕ} (hkey : key < MAP_INDEXES stream_idx 0) :
    (fixLines stream_idx mapping media).2.mapping key = mapping.mapping key := by
  induction media generalizing stream_idx mapping with
  | nil => rfl
  | cons m media ih =>
    rw [fixLines]
    split_ifs with haudio
    · have hnext : key < MAP_INDEXES (stream_idx + 1) 0 := by
        unfold MAP_INDEXES at hkey ⊢
        omega
      show (fixLines (stream_idx + 1) (fixLine stream_idx mapping m).2 media).2.mapping key = _
      rw [ih _ hnext, fixLine_eq, mapping_remember, if_neg (by omega)]
    · exact ih mapping hkey

/-- A line writes below the keys of the later ones, which therefore keep their numbers. -/
theorem numbers_after_fixLine {stream_idx i : ℕ} (mapping : PayloadIdMapping) {m' : SdpMedia}
    (hfew : m'.payloads.length ≤ 128) (hlater : stream_idx < i) (m : SdpMedia) :
    numbers (fixLine stream_idx mapping m').2 i m = numbers mapping i m := by
  rw [numbers, numbers]
  congr 1
  refine wishes_congr ?_
  intro j _
  rw [fixLine_eq, mapping_remember]
  split_ifs with hle
  · have hnone : (numbers mapping stream_idx m')[MAP_INDEXES i (0 + j) -
        MAP_INDEXES stream_idx 0]? = none := by
      rw [List.getElem?_eq_none_iff, length_numbers]
      unfold MAP_INDEXES
      omega
    rw [hnone, Option.none_or]
  · rfl

/-- A line remembers its numbers, and the later ones do not forget them. -/
theorem fixLines_remembers {stream_idx : ℕ} (mapping : PayloadIdMapping) (m : SdpMedia)
    (media : List SdpMedia) (hfew : m.payloads.length ≤ 128) {idx : ℕ}
    (hidx : idx < m.payloads.length) :
    (fixLines (stream_idx + 1) (fixLine stream_idx mapping m).2 media).2.mapping
      (MAP_INDEXES stream_idx idx) = (numbers mapping stream_idx m)[idx]? := by
  have hkey : MAP_INDEXES stream_idx idx < MAP_INDEXES (stream_idx + 1) 0 := by
    unfold MAP_INDEXES
    omega
  have hbase : MAP_INDEXES stream_idx 0 ≤ MAP_INDEXES stream_idx idx := by
    unfold MAP_INDEXES
    omega
  have hsub : MAP_INDEXES stream_idx idx - MAP_INDEXES stream_idx 0 = idx := by
    unfold MAP_INDEXES
    omega
  have hlt : idx < (numbers mapping stream_idx m).length := by
    rw [length_numbers]
    exact hidx
  rw [fixLines_before _ _ hkey, fixLine_eq, mapping_remember, if_pos hbase, hsub,
    List.getElem?_eq_getElem hlt, Option.some_or]

/-- The numbers of a line are those that it has with the mapping from before, and they
    are remembered at the end. -/
theorem fixLines_audio {stream_idx : ℕ} {mapping : PayloadIdMapping} {media : List SdpMedia}
    (hfew : ∀ m ∈ audioLines media, m.payloads.length ≤ 128) {i : ℕ} {m : SdpMedia}
    (hi : (audioLines media)[i]? = some m) :
    (audioLines (fixLines stream_idx mapping media).1)[i]? =
        some { m with payloads := withNumbers m.payloads (numbers mapping (stream_idx + i) m) } ∧
      ∀ idx, idx < m.payloads.length →
        (fixLines stream_idx mapping media).2.mapping (MAP_INDEXES (stream_idx + i) idx) =
          (numbers mapping (stream_idx + i) m)[idx]? := by
  induction media generalizing stream_idx mapping i with
  | nil => cases hi
  | cons m' media ih =>
    rw [fixLines]
    by_cases haudio : m'.type = .MT_Audio
    · rw [audioLines_cons_audio haudio] at hi hfew
      obtain ⟨hfirst, hrest⟩ := List.forall_mem_cons.mp hfew
      have hline : (fixLine stream_idx mapping m').1.type = .MT_Audio := haudio
      rw [if_pos haudio]
      dsimp only
      rw [audioLines_cons_audio hline]
      cases i with
      | zero =>
        obtain rfl : m' = m := by simpa using hi
        simp only [Nat.add_zero]
        constructor
        · rw [fixLine_eq]
          rfl
        · intro idx hidx
          exact fixLines_remembers mapping m' media hfirst hidx
      | succ i =>
        -- the rest begins with the mapping that this line leaves
        rw [List.getElem?_cons_succ] at hi ⊢
        have hstream : stream_idx + 1 + i = stream_idx + (i + 1) := by omega
        have hnumbers : numbers (fixLine stream_idx mapping m').2 (stream_idx + 1 + i) m =
            numbers mapping (stream_idx + (i + 1)) m := by
          rw [← hstream]
          exact numbers_after_fixLine mapping hfirst (by omega) m
        rw [← hnumbers, ← hstream]
        exact ih hrest hi
    · rw [audioLines_cons_other haudio] at hi hfew
      rw [if_neg haudio]
      dsimp only
      rw [audioLines_cons_other haudio]
      exact ih hfew hi

/-- Lines that are settled stay, and so does the mapping. -/
theorem fixLines_settled {stream_idx : ℕ} {mapping : PayloadIdMapping} {media : List SdpMedia}
    (h : ∀ i m, (audioLines media)[i]? = some m → Settled mapping (stream_idx + i) m) :
    fixLines stream_idx mapping media = (media, mapping) := by
  induction media generalizing stream_idx with
  | nil => rfl
  | cons m media ih =>
    rw [fixLines]
    by_cases haudio : m.type = .MT_Audio
    · rw [audioLines_cons_audio haudio] at h
      have hfirst : Settled mapping stream_idx m := h 0 m rfl
      have hrest : fixLines (stream_idx + 1) mapping media = (media, mapping) := by
        refine ih ?_
        intro i m' hm'
        have hstream : stream_idx + 1 + i = stream_idx + (i + 1) := by omega
        rw [hstream]
        exact h (i + 1) m' hm'
      rw [if_pos haudio, hfirst.fixLine_eq]
      dsimp only
      rw [hrest]
    · rw [audioLines_cons_other haudio] at h
      rw [if_neg haudio, ih h]

theorem length_audioLines_fixLines (stream_idx : ℕ) (mapping : PayloadIdMapping)
    (media : List SdpMedia) :
    (audioLines (fixLines stream_idx mapping media).1).length = (audioLines media).length := by
  induction media generalizing stream_idx mapping with
  | nil => rfl
  | cons m media ih =>
    rw [fixLines]
    by_cases haudio : m.type = .MT_Audio
    · have hline : (fixLine stream_idx mapping m).1.type = .MT_Audio := haudio
      rw [if_pos haudio, audioLines_cons_audio haudio]
      dsimp only
      rw [audioLines_cons_audio hline, List.length_cons, List.length_cons, ih]
    · rw [if_neg haudio, audioLines_cons_other haudio, audioLines_cons_other haudio, ih]

section

variable {sdp : AmSdp} {mapping : PayloadIdMapping}

/-- An audio line of the result is one of the SDP with its numbers. -/
theorem Numberable.line (h : Numberable sdp mapping) {i : ℕ} {m : SdpMedia}
    (hi : (audioLines sdp.media)[i]? = some m) :
    (audioLines (fix_dynamic_payloads sdp mapping).1.media)[i]? =
        some { m with payloads := withNumbers m.payloads (numbers mapping i m) } ∧
      ∀ idx, idx < m.payloads.length →
        (fix_dynamic_payloads sdp mapping).2.mapping (MAP_INDEXES i idx) =
          (numbers mapping i m)[idx]? := by
  have hfew : ∀ m ∈ audioLines sdp.media, m.payloads.length ≤ 128 := fun m hm =>
    Nat.le_trans (h.few m hm) (by decide)
  have hlines := @fixLines_audio 0 mapping sdp.media hfew i m hi
  rw [Nat.zero_add] at hlines
  exact hlines

theorem Numberable.line_of_result (h : Numberable sdp mapping) {i : ℕ} {m' : SdpMedia}
    (hi : (audioLines (fix_dynamic_payloads sdp mapping).1.media)[i]? = some m') :
    ∃ m, (audioLines sdp.media)[i]? = some m ∧
      m' = { m with payloads := withNumbers m.payloads (numbers mapping i m) } := by
  have hlt := (List.getElem?_eq_some_iff.mp hi).1
  have hlength : (audioLines (fix_dynamic_payloads sdp mapping).1.media).length =
      (audioLines sdp.media).length := length_audioLines_fixLines 0 mapping sdp.media
  rw [hlength] at hlt
  have hm := List.getElem?_eq_getElem hlt
  refine ⟨_, hm, ?_⟩
  rw [(h.line hm).1] at hi
  exact (Option.some.inj hi).symm

/-- The lines of the result are settled, with numbers in range. -/
theorem Numberable.settled (h : Numberable sdp mapping) {i : ℕ} {m' : SdpMedia}
    (hi : (audioLines (fix_dynamic_payloads sdp mapping).1.media)[i]? = some m') :
    Settled (fix_dynamic_payloads sdp mapping).2 i m' ∧
      ∀ p ∈ m'.payloads, 0 ≤ p.payload_type ∧ p.payload_type ≤ 127 := by
  obtain ⟨m, hm, rfl⟩ := h.line_of_result hi
  have hmem : m ∈ audioLines sdp.media := List.mem_of_getElem? hm
  have hlength := length_numbers mapping i m
  have hnumbers : (withNumbers m.payloads (numbers mapping i m)).map (·.payload_type) =
      numbers mapping i m := map_withNumbers hlength
  have hrange : ∀ p ∈ withNumbers m.payloads (numbers mapping i m),
      0 ≤ p.payload_type ∧ p.payload_type ≤ 127 := by
    intro p hp
    have hn : p.payload_type ∈ numbers mapping i m := by
      rw [← hnumbers]
      exact List.mem_map_of_mem hp
    exact numbers_range (h.few m hmem) (h.types m hmem) h.values hn
  refine ⟨⟨?_, fun p hp => (hrange p hp).1, ?_⟩, hrange⟩
  · rw [hnumbers]
    exact numbers_nodup mapping i m
  · intro idx p hp
    have hidx : (numbers mapping i m)[idx]? = some p.payload_type := by
      rw [← hnumbers, List.getElem?_map, hp, Option.map_some]
    have hlt : idx < m.payloads.length := hlength ▸ (List.getElem?_eq_some_iff.mp hidx).1
    rw [(h.line hm).2 idx hlt, hidx]

end

/-- **Payload numbers.**  The numbers of an audio line become distinct and stay in range,
    numbers that nothing before requests are kept, the mapping remembers all of them, and
    a second application changes nothing. -/
theorem fix_dynamic_payloads_numbered (sdp : AmSdp) (mapping : PayloadIdMapping)
    (h : Numberable sdp mapping) :
    Numbered sdp mapping (fix_dynamic_payloads sdp mapping).1
      (fix_dynamic_payloads sdp mapping).2 where
  distinct := by
    intro m hm
    obtain ⟨i, hi⟩ := List.mem_iff_getElem?.mp hm
    exact (h.settled hi).1.distinct
  range := by
    intro m hm
    obtain ⟨i, hi⟩ := List.mem_iff_getElem?.mp hm
    exact (h.settled hi).2
  keeps := by
    intro stream_idx m hm
    refine ⟨_, (h.line hm).1, ?_⟩
    intro idx p hp hpos hearlier
    rw [← List.getElem?_map, map_withNumbers (length_numbers mapping stream_idx m)]
    exact numbers_keeps hp hpos hearlier
  records := by
    intro stream_idx m' hm' idx p' hp'
    have hremembered := (h.settled hm').1.remembered idx p' hp'
    rw [PayloadIdMapping.get, hremembered, Option.getD_some]
  again := by
    have hsettled : fixLines 0 (fix_dynamic_payloads sdp mapping).2
        (fix_dynamic_payloads sdp mapping).1.media =
          ((fix_dynamic_payloads sdp mapping).1.media, (fix_dynamic_payloads sdp mapping).2) := by
      refine fixLines_settled ?_
      intro i m hm
      rw [Nat.zero_add]
      exact (h.settled hm).1
    rw [fix_dynamic_payloads, hsettled]

namespace NumberExample

/-- A payload without a number, and two with the same. -/
def payloads : List SdpPayload :=
  [ { payload_type := -1, encoding_name := "opus".toList, clock_rate := 48000 },
    { payload_type := 96, encoding_name := "speex".toList, clock_rate := 8000 },
    { payload_type := 96, encoding_name := "speex".toList, clock_rate := 16000 } ]

def offered : AmSdp :=
  { media := [{ type := .MT_Audio, port := 5000, transport := .TP_RTPAVP, payloads := payloads }] }

/-- The first payload had number 97. -/
def remembered : PayloadIdMapping where
  mapping key := if key = 0 then some 97 else none

end NumberExample

open NumberExample in
/-- An SDP with a repeated and a missing number. -/
theorem fix_dynamic_payloads_numbered_repeated :
    Numbered offered remembered (fix_dynamic_payloads offered remembered).1
      (fix_dynamic_payloads offered remembered).2 := by
  refine fix_dynamic_payloads_numbered offered remembered ⟨by decide, by decide, ?_⟩
  intro key payload_id hvalue
  simp only [remembered] at hvalue
  split_ifs at hvalue
  · cases hvalue
    decide
  · cases hvalue

open NumberExample in
example : (fix_dynamic_payloads offered remembered).1.media.map (·.payloads.map (·.payload_type)) =
    [[97, 96, 98]] := by decide

end Yeti.Sdp
