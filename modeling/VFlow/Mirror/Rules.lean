import VFlow.Mirror.Reencode
import VFlow.Netflow9.Fields

/-!
# Which records a mirror rule selects

A rule names an ingress and an egress interface by their numbers, or any with `-1`. The exchange loop compares the
number, an `int32`, with the decoded value of the field, which is an interface value and equals it only if it is an
`int32` too (`portMatches_iff`). The value of an unsigned element never is, nor is that of a field with fewer than
four bytes, which stays a byte string. So what a rule selects always matches, but a record that matches is only
selected by wildcards, or where the element is signed and the field has four bytes (`selection_exact_iff`).
-/

namespace VFlow.Mirror

open BigEndian Netflow9

/-! ## What a rule asks for -/

/-- The field has the id, and the number that the port is, if it is not a wildcard. -/
def Asks (id : UInt16) (port : Int32) (w : WireField) : Prop :=
  w.id = id ∧ (port = -1 ∨ (value w.bytes : Int) = port.toInt)

instance (id : UInt16) (port : Int32) (w : WireField) : Decidable (Asks id port w) :=
  inferInstanceAs (Decidable (_ ∧ _))

/-- The record has an ingress and an egress interface as the rule wants them. -/
def ExchangeRule.Matches (rule : ExchangeRule) (ws : List WireField) : Prop :=
  (∃ w ∈ ws, Asks inputID rule.inPort w) ∧ ∃ w ∈ ws, Asks outputID rule.outPort w

instance (rule : ExchangeRule) (ws : List WireField) : Decidable (rule.Matches ws) :=
  inferInstanceAs (Decidable (_ ∧ _))

/-- The records of the message that match, by the fields they are read from. -/
def matching (rule : ExchangeRule) (wss : List (List WireField)) (msg : Message) : List (List DecodedField) :=
  ((wss.zip msg.dataSets).filter fun p => decide (rule.Matches p.1)).map Prod.snd

def Signed (im : IANAInfoModel) (id : UInt16) : Prop :=
  ∃ m, im.lookup { enterpriseNo := 0, elementID := id } = some m ∧ m.type = .int32

/-- The port is a wildcard, or a field of four bytes of a signed element has its number. -/
def Comparable (im : IANAInfoModel) (id : UInt16) (port : Int32) (ws : List WireField) : Prop :=
  port = -1 ∨ Signed im id ∧ ∃ w ∈ ws, w.id = id ∧ w.bytes.length = 4 ∧ (value w.bytes : Int) = port.toInt

/-! ## What the loop compares -/

theorem matchField_eq (rule : ExchangeRule) (flags : Bool × Bool) (f : DecodedField) :
    matchField rule flags f =
      (flags.1 || (decide (f.id = inputID) && portMatches f.value rule.inPort),
        flags.2 || (decide (f.id = outputID) && portMatches f.value rule.outPort)) := by
  unfold matchField
  by_cases hin : f.id = inputID
  · have hout : ¬ f.id = outputID := by
      rw [hin]
      decide
    simp [if_pos hin, decide_eq_true hin, decide_eq_false hout]
  · by_cases hout : f.id = outputID
    · simp [if_neg hin, if_pos hout, decide_eq_false hin, decide_eq_true hout]
    · simp [if_neg hin, if_neg hout, decide_eq_false hin, decide_eq_false hout]

theorem foldl_matchField (rule : ExchangeRule) (record : List DecodedField) (flags : Bool × Bool) :
    record.foldl (matchField rule) flags =
      (flags.1 || record.any fun f => decide (f.id = inputID) && portMatches f.value rule.inPort,
        flags.2 || record.any fun f => decide (f.id = outputID) && portMatches f.value rule.outPort) := by
  induction record generalizing flags with
  | nil => simp
  | cons f record ih =>
    rw [List.foldl_cons, ih, matchField_eq, List.any_cons, List.any_cons, Bool.or_assoc, Bool.or_assoc]

theorem selects_iff (rule : ExchangeRule) (record : List DecodedField) :
    rule.selects record = true ↔
      (∃ f ∈ record, f.id = inputID ∧ portMatches f.value rule.inPort = true) ∧
        ∃ f ∈ record, f.id = outputID ∧ portMatches f.value rule.outPort = true := by
  unfold ExchangeRule.selects
  rw [foldl_matchField]
  simp only [Bool.false_or, Bool.and_eq_true, List.any_eq_true, decide_eq_true_eq]

theorem interpret_eq_int32_iff (b : List UInt8) (t : FieldType) (v : Int32) :
    interpret b t = .int32 v ↔ t = .int32 ∧ 4 ≤ b.length ∧ (BigEndian.uint32 b).toInt32 = v := by
  unfold interpret
  cases t with
  | int32 =>
    by_cases hlen : b.length < 4
    · rw [if_pos (show b.length < FieldType.int32.minLen from hlen)]
      simp only [reduceCtorEq, true_and, false_iff]
      omega
    · rw [if_neg (show ¬ b.length < FieldType.int32.minLen from hlen)]
      simp only [Value.int32.injEq, true_and, Nat.le_of_not_lt hlen]
  | _ => split_ifs <;> simp

theorem toInt32_eq_iff {b : List UInt8} (hlen : b.length = 4) {port : Int32} (hport : 0 ≤ port.toInt) :
    (BigEndian.uint32 b).toInt32 = port ↔ (value b : Int) = port.toInt := by
  have hvalue : value b = (BigEndian.uint32 b).toNat := by
    rw [uint32_value hlen.ge, List.take_of_length_le hlen.le]
  rw [hvalue, ← Int32.toInt_inj]
  have hsigned : (BigEndian.uint32 b).toInt32.toInt = ((BigEndian.uint32 b).toNat : Int).bmod (2 ^ 32) :=
    BitVec.toInt_eq_toNat_bmod _
  have hlt := port.toInt_lt
  have hv := (BigEndian.uint32 b).toNat_lt
  rw [hsigned, Int.bmod_def]
  split_ifs <;> omega

section
variable {im : IANAInfoModel} {w : WireField} {f : DecodedField} {ws : List WireField} {record : List DecodedField}
  {id : UInt16} {port : Int32}

/-- A field of at most four bytes is found equal to a port only if all four are there and the element is signed. -/
theorem portMatches_iff (hread : w.Read im f) (hlen : w.bytes.length ≤ 4) (hport : -1 ≤ port.toInt) :
    portMatches f.value port = true ↔
      port = -1 ∨ Signed im w.id ∧ w.bytes.length = 4 ∧ (value w.bytes : Int) = port.toInt := by
  obtain ⟨m, hm, -, hvalue⟩ := hread
  have hsigned : Signed im w.id ↔ m.type = .int32 := by
    simp only [Signed, hm, Option.some.injEq, exists_eq_left']
  unfold portMatches
  rw [Bool.or_eq_true, decide_eq_true_eq, decide_eq_true_eq, hvalue, interpret_eq_int32_iff, hsigned, or_comm]
  refine or_congr_right' fun hne => and_congr_right fun _ => ?_
  have hpos : 0 ≤ port.toInt := by
    have hne' : port.toInt ≠ -1 := fun h => hne (Int32.toInt_inj.mp h)
    omega
  constructor
  · rintro ⟨hle, hv⟩
    have hfour : w.bytes.length = 4 := Nat.le_antisymm hlen hle
    exact ⟨hfour, (toInt32_eq_iff hfour hpos).mp hv⟩
  · rintro ⟨hfour, hv⟩
    exact ⟨hfour.ge, (toInt32_eq_iff hfour hpos).mpr hv⟩

theorem exists_field_iff (hread : List.Forall₂ (WireField.Read im) ws record)
    (hlen : ∀ w ∈ ws, w.id = id → w.bytes.length ≤ 4) (hport : -1 ≤ port.toInt) :
    (∃ f ∈ record, f.id = id ∧ portMatches f.value port = true) ↔
      ∃ w ∈ ws, w.id = id ∧
        (port = -1 ∨ Signed im id ∧ w.bytes.length = 4 ∧ (value w.bytes : Int) = port.toInt) := by
  induction hread with
  | nil => simp
  | @cons w f ws record hw _ ih =>
    obtain ⟨hhead, htail⟩ := List.forall_mem_cons.mp hlen
    rw [List.exists_mem_cons_iff, List.exists_mem_cons_iff, ih htail]
    refine or_congr_left ?_
    obtain ⟨m, hm, hid, hvalue⟩ := hw
    rw [hid]
    refine and_congr_right fun heq => ?_
    rw [portMatches_iff ⟨m, hm, hid, hvalue⟩ (hhead heq) hport, heq]

theorem exists_portMatches_iff (hread : List.Forall₂ (WireField.Read im) ws record)
    (hlen : ∀ w ∈ ws, w.id = id → w.bytes.length ≤ 4) (hport : -1 ≤ port.toInt) :
    (∃ f ∈ record, f.id = id ∧ portMatches f.value port = true) ↔
      (∃ w ∈ ws, Asks id port w) ∧ Comparable im id port ws := by
  rw [exists_field_iff hread hlen hport]
  by_cases hany : port = -1
  · simp only [Asks, Comparable, hany, true_or, and_true]
  · simp only [Asks, Comparable, hany, false_or]
    constructor
    · rintro ⟨w, hw, hid, hsigned, hfour, hv⟩
      exact ⟨⟨w, hw, hid, hv⟩, hsigned, w, hw, hid, hfour, hv⟩
    · rintro ⟨-, hsigned, w, hw, hid, hfour, hv⟩
      exact ⟨w, hw, hid, hsigned, hfour, hv⟩

variable {rule : ExchangeRule}

theorem selects_iff_matches (hread : List.Forall₂ (WireField.Read im) ws record)
    (hlen : ∀ w ∈ ws, w.id = inputID ∨ w.id = outputID → w.bytes.length ≤ 4) (hin : -1 ≤ rule.inPort.toInt)
    (hout : -1 ≤ rule.outPort.toInt) :
    rule.selects record = true ↔
      rule.Matches ws ∧ Comparable im inputID rule.inPort ws ∧ Comparable im outputID rule.outPort ws := by
  rw [selects_iff, exists_portMatches_iff hread (fun w hw h => hlen w hw (.inl h)) hin,
    exists_portMatches_iff hread (fun w hw h => hlen w hw (.inr h)) hout]
  exact and_and_and_comm

end

/-! ## Whole messages -/

theorem map_filter_eq_iff {α β : Type} {f : α → β} {p q : α → Bool} {l : List α}
    (hpq : ∀ x ∈ l, p x = true → q x = true) :
    (l.filter p).map f = (l.filter q).map f ↔ ∀ x ∈ l, q x = true → p x = true := by
  constructor
  · intro heq x hx hq
    have hpart : l.filter p = (l.filter q).filter p := by
      rw [List.filter_filter]
      refine List.filter_congr fun y hy => ?_
      cases hp : p y with
      | false => rfl
      | true => rw [hpq y hy hp, Bool.true_and]
    have hsub : (l.filter p).Sublist (l.filter q) := hpart ▸ List.filter_sublist
    have hlen := congrArg List.length heq
    rw [List.length_map, List.length_map] at hlen
    have hmem := List.mem_filter.mpr ⟨hx, hq⟩
    rw [← hsub.eq_of_length hlen] at hmem
    exact (List.mem_filter.mp hmem).2
  · intro hqp
    rw [List.filter_congr fun x hx => Bool.eq_iff_iff.mpr ⟨hpq x hx, hqp x hx⟩]

variable {im : IANAInfoModel} {raddr : IP} {mem : MemCache TemplateRecord} {b : List UInt8} {out : Outcome}
  {msg : Message}

/-- The records of a decoded message are read from fields of the packet. Whatever these are, as long as interface
fields have at most four bytes, a rule selects exactly the records that match if and only if both ports are
comparable in all of them. -/
theorem selection_exact_iff (hdec : Decodes im raddr mem b out) (hmsg : out.msg = some msg) :
    (∃ wss, List.Forall₂ (ReadRecord im b) wss msg.dataSets) ∧
      ∀ wss, List.Forall₂ (ReadRecord im b) wss msg.dataSets →
        (∀ ws ∈ wss, ∀ w ∈ ws, w.id = inputID ∨ w.id = outputID → w.bytes.length ≤ 4) →
        ∀ rule : ExchangeRule, -1 ≤ rule.inPort.toInt → -1 ≤ rule.outPort.toInt →
          (selection rule msg = matching rule wss msg ↔
            ∀ ws ∈ wss, rule.Matches ws →
              Comparable im inputID rule.inPort ws ∧ Comparable im outputID rule.outPort ws) := by
  refine ⟨hdec.exists_wire hmsg, fun wss hread hlen rule hin hout => ?_⟩
  obtain ⟨hlength, hzip⟩ := List.forall₂_iff_zip.mp hread
  have hfst : (wss.zip msg.dataSets).map Prod.fst = wss := List.map_fst_zip hlength.le
  have hsnd : (wss.zip msg.dataSets).map Prod.snd = msg.dataSets := List.map_snd_zip hlength.ge
  have hselects : ∀ p ∈ wss.zip msg.dataSets, rule.selects p.2 = true ↔ rule.Matches p.1 ∧
      Comparable im inputID rule.inPort p.1 ∧ Comparable im outputID rule.outPort p.1 := by
    intro p hp
    exact selects_iff_matches (hzip hp).2 (hlen p.1 (List.of_mem_zip hp).1) hin hout
  have hselection : selection rule msg =
      ((wss.zip msg.dataSets).filter fun p => rule.selects p.2).map Prod.snd := by
    unfold selection
    nth_rewrite 1 [← hsnd]
    rw [List.filter_map]
    rfl
  rw [hselection, matching, map_filter_eq_iff fun p hp h => decide_eq_true ((hselects p hp).mp h).1]
  conv_rhs => rw [← hfst, List.forall_mem_map]
  refine forall₂_congr fun p hp => ?_
  rw [decide_eq_true_eq, hselects p hp]
  exact ⟨fun h hmatches => (h hmatches).2, fun h hmatches => ⟨hmatches, h hmatches⟩⟩

def interfacesFields : List WireField := [⟨10, [0, 0, 0, 5]⟩, ⟨14, [0, 0, 0, 6]⟩]

theorem read_interfaces :
    List.Forall₂ (ReadRecord infoModel interfacesPacket) [interfacesFields]
      (interfacesMessage interfaces.record 5 6).dataSets :=
  .cons ⟨by decide +kernel, .cons ⟨⟨10, .uint32⟩, by decide +kernel, rfl, rfl⟩
    (.cons ⟨⟨14, .uint32⟩, by decide +kernel, rfl, rfl⟩ .nil)⟩ .nil

theorem selection_anyPorts :
    selection anyPorts (interfacesMessage interfaces.record 5 6) =
      matching anyPorts [interfacesFields] (interfacesMessage interfaces.record 5 6) := by
  obtain ⟨out, hdec, hmsg⟩ : ∃ out, Decodes infoModel [192, 0, 2, 1] .empty interfacesPacket out ∧
      out.msg = some (interfacesMessage interfaces.record 5 6) := decodes_of_msg 64 (by decide +kernel)
  exact ((selection_exact_iff hdec hmsg).2 _ read_interfaces (by decide) anyPorts (by decide) (by decide)).mpr
    fun _ _ _ => ⟨.inl rfl, .inl rfl⟩

/-- A rule for the ingress interface of the record, and any egress interface, does not select it. -/
theorem selection_ingress :
    (∃ out, Decodes infoModel [192, 0, 2, 1] .empty interfacesPacket out ∧
        out.msg = some (interfacesMessage interfaces.record 5 6)) ∧
      List.Forall₂ (ReadRecord infoModel interfacesPacket) [interfacesFields]
        (interfacesMessage interfaces.record 5 6).dataSets ∧
      matching ⟨5, -1, "192.0.2.9:9995"⟩ [interfacesFields] (interfacesMessage interfaces.record 5 6) =
        (interfacesMessage interfaces.record 5 6).dataSets ∧
      selection ⟨5, -1, "192.0.2.9:9995"⟩ (interfacesMessage interfaces.record 5 6) = [] :=
  ⟨decodes_of_msg 64 (by decide +kernel), read_interfaces, by decide +kernel, by decide +kernel⟩

end VFlow.Mirror
