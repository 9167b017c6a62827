import WebAuthn.Proofs.Acceptance.ClientData
import WebAuthn.Proofs.Json.Members

/-!
# Client data is read member by member

No template is compared: the members may stand in any order and among others, under whatever escapes, and blanks may
stand around every token.

* `ClientData.Lists` — the fields that list client data, where an option that is not set is left out or null;
* `ClientData.Faulty` — members that list no client data: one of the names occurs twice, or what is needed is missing
  or of another kind;
* `ClientData.ofJson?_of_lists`, `ClientData.not_faulty_of_ofJson?` — what the reader of values makes of either;
* `ClientData.parse_written_object` — the same of every JSON text of an object.
-/

namespace WebAuthn.ClientData

open Json

/-! ### Listed client data -/

def requiredNames : List String :=
  ["type", "challenge", "origin"]

/-- An option is listed: not at all, as null, or with its value. -/
inductive ListsOption {α : Type} (name : String) (holds : Value → α → Prop) :
    Option α → Record → Prop where
  | leftOut : ListsOption name holds none []
  | null : ListsOption name holds none [(name, .null)]
  | value {value : Value} {a : α} : holds value a → ListsOption name holds (some a) [(name, value)]

/-- The fields list the client data, in the order in which its members are declared. -/
inductive Lists (data : ClientData) : Record → Prop where
  | mk {type challenge origin : Value} {crossOrigin topOrigin : Record} :
      type.StandsFor data.type → challenge.StandsFor data.challenge → origin.StandsFor data.origin →
      ListsOption "crossOrigin" (fun value b => value = .bool b) data.crossOrigin crossOrigin →
      ListsOption "topOrigin" Value.StandsFor data.topOrigin topOrigin →
      Lists data
        ([("type", type), ("challenge", challenge), ("origin", origin)] ++ (crossOrigin ++ topOrigin))

/-- The members list no client data. -/
inductive Faulty (members : List (Text × Value)) : Prop where
  | twice {name : String} {first second : Text × Value} :
      name ∈ memberNames → [first, second].Sublist members → first.1.Spells name.toList →
      second.1.Spells name.toList → Faulty members
  | missing {name : String} :
      name ∈ requiredNames → (∀ member ∈ members, ¬ member.1.Spells name.toList) → Faulty members
  | noText {name : String} {member : Text × Value} :
      name ∈ requiredNames → member ∈ members → member.1.Spells name.toList →
      (∀ text, ¬ member.2.StandsFor text) → Faulty members
  | noBool {member : Text × Value} :
      member ∈ members → member.1.Spells "crossOrigin".toList → (∀ b, member.2 ≠ .bool b) →
      member.2 ≠ .null → Faulty members

variable {members : List (Text × Value)} {fields known others : Record} {data : ClientData}
  {name : String} {json : Bytes}

/-! ### Reading listed client data -/

theorem ListsOption.names_sublist {α : Type} {holds : Value → α → Prop} {option : Option α}
    (h : ListsOption name holds option fields) : (fields.map Prod.fst).Sublist [name] := by
  cases h with
  | leftOut => exact List.nil_sublist _
  | null => exact .refl _
  | value _ => exact .refl _

theorem Lists.names_sublist (h : data.Lists known) : (known.map Prod.fst).Sublist memberNames := by
  obtain ⟨-, -, -, hcross, htop⟩ := h
  rw [List.map_append, List.map_append]
  exact (List.Sublist.refl _).append (hcross.names_sublist.append htop.names_sublist)

/-- None of the names occurs twice. -/
theorem Lists.count_le_one (h : data.Lists known) (name : String) :
    (known.map Prod.fst).count name ≤ 1 := by
  have hnodup : memberNames.Nodup := by decide
  exact List.nodup_iff_count_le_one.1 (hnodup.sublist h.names_sublist) name

theorem Lists.required (h : data.Lists known) :
    known.required "type" Value.text? = some data.type ∧
      known.required "challenge" Value.text? = some data.challenge ∧
      known.required "origin" Value.text? = some data.origin := by
  obtain ⟨htype, hchallenge, horigin, -, -⟩ := h
  exact ⟨Value.text?_of_standsFor htype, Value.text?_of_standsFor hchallenge,
    Value.text?_of_standsFor horigin⟩

theorem Lists.optional_crossOrigin (h : data.Lists known) :
    known.optional "crossOrigin" Value.bool? = some data.crossOrigin := by
  obtain ⟨type, challenge, origin, crossOrigin, topOrigin⟩ := data
  obtain ⟨-, -, -, hcross, htop⟩ := h
  cases hcross with
  | leftOut => cases htop <;> rfl
  | null => rfl
  | value hb =>
    cases hb
    rfl

theorem Lists.optional_topOrigin (h : data.Lists known) :
    known.optional "topOrigin" Value.text? = some data.topOrigin := by
  obtain ⟨type, challenge, origin, crossOrigin, topOrigin⟩ := data
  obtain ⟨-, -, -, hcross, htop⟩ := h
  cases htop with
  | leftOut => cases hcross <;> rfl
  | null => cases hcross <;> rfl
  | value ht =>
    have hread := congrArg (Option.map some) (Value.text?_of_standsFor ht)
    obtain ⟨literal, rfl, -⟩ := ht
    cases hcross <;> exact hread

/-- Other members do not count, and the order does not matter. -/
theorem count_fields (hp : fields.Perm (known ++ others)) (ho : ∀ field ∈ others, field.1 ∉ memberNames)
    (hn : name ∈ memberNames) : (fields.map Prod.fst).count name = (known.map Prod.fst).count name := by
  have hothers : (others.map Prod.fst).count name = 0 := by
    refine List.count_eq_zero.2 fun hmem => ?_
    obtain ⟨field, hfield, rfl⟩ := List.mem_map.1 hmem
    exact ho field hfield hn
  rw [(hp.map Prod.fst).count_eq, List.map_append, List.count_append, hothers, Nat.add_zero]

theorem lookup_fields (hp : fields.Perm (known ++ others)) (ho : ∀ field ∈ others, field.1 ∉ memberNames)
    (hl : data.Lists known) (hn : name ∈ memberNames) : fields.lookup name = known.lookup name := by
  have hcount := count_fields hp ho hn
  cases hk : known.lookup name with
  | some value =>
    refine Record.lookup_of_mem (hcount ▸ hl.count_le_one name) (hp.mem_iff.2 ?_)
    exact List.mem_append_left _ (Record.mem_of_lookup hk)
  | none =>
    refine Record.lookup_eq_none (List.count_eq_zero.1 (hcount.trans (List.count_eq_zero.2 fun hmem => ?_)))
    obtain ⟨field, hfield, hname⟩ := List.mem_map.1 hmem
    exact bne_iff_ne.1 (List.lookup_eq_none_iff.1 hk field hfield) hname.symm

/-- Members that list client data are read as it, in whatever order and among whatever others. -/
theorem ofJson?_of_lists (hf : Record.Found members fields) (hp : fields.Perm (known ++ others))
    (ho : ∀ field ∈ others, field.1 ∉ memberNames) (hl : data.Lists known) :
    ofJson? (.object members) = some data := by
  have hdistinct : Record.distinct memberNames fields = true :=
    Record.distinct_iff.2 fun name hn => count_fields hp ho hn ▸ hl.count_le_one name
  have hfields : Record.ofValue? memberNames (.object members) = some fields :=
    Record.ofValue?_eq_some_iff.2 ⟨hf, hdistinct⟩
  have hlookup : ∀ name ∈ memberNames, fields.lookup name = known.lookup name :=
    fun name hn => lookup_fields hp ho hl hn
  have hrequired : ∀ name ∈ memberNames,
      fields.required name Value.text? = known.required name Value.text? := fun name hn => by
    rw [Record.required, hlookup name hn, Record.required]
  have hcross : fields.optional "crossOrigin" Value.bool? = some data.crossOrigin := by
    rw [Record.optional, hlookup _ (by decide)]
    exact hl.optional_crossOrigin
  have htop : fields.optional "topOrigin" Value.text? = some data.topOrigin := by
    rw [Record.optional, hlookup _ (by decide)]
    exact hl.optional_topOrigin
  obtain ⟨htype, hchallenge, horigin⟩ := hl.required
  rw [ofJson?, hfields, Option.bind_eq_bind, Option.bind_some, hrequired "type" (by decide), htype,
    hrequired "challenge" (by decide), hchallenge, hrequired "origin" (by decide), horigin, hcross, htop]
  rfl

/-! ### Faults -/

/-- What the reader has found when it returns client data. -/
theorem found_of_ofJson? {value : Value} (h : ofJson? value = some data) :
    ∃ fields : Record, Record.ofValue? memberNames value = some fields ∧
      (∀ name ∈ requiredNames, ∃ text, fields.required name Value.text? = some text) ∧
      ∃ option, fields.optional "crossOrigin" Value.bool? = some option := by
  obtain ⟨fields, hfields, h⟩ := Option.bind_eq_some_iff.1 h
  obtain ⟨type, htype, h⟩ := Option.bind_eq_some_iff.1 h
  obtain ⟨challenge, hchallenge, h⟩ := Option.bind_eq_some_iff.1 h
  obtain ⟨origin, horigin, h⟩ := Option.bind_eq_some_iff.1 h
  obtain ⟨crossOrigin, hcross, -⟩ := Option.bind_eq_some_iff.1 h
  refine ⟨fields, hfields, ?_, crossOrigin, hcross⟩
  simp only [requiredNames, List.forall_mem_cons]
  exact ⟨⟨type, htype⟩, ⟨challenge, hchallenge⟩, ⟨origin, horigin⟩, nofun⟩

/-- Faulty members of a written object are not read as client data. -/
theorem not_faulty_of_ofJson? (hw : (Value.object members).WrittenAs json)
    (h : ofJson? (.object members) = some data) : ¬ Faulty members := by
  obtain ⟨fields, hfields, hrequired, option, hoption⟩ := found_of_ofJson? h
  obtain ⟨hfound, hdistinct⟩ := Record.ofValue?_eq_some_iff.1 hfields
  have hcount := Record.distinct_iff.1 hdistinct
  have hmember : ∀ {member : Text × Value} {name : String}, name ∈ memberNames → member ∈ members →
      member.1.Spells name.toList → fields.lookup name = some member.2 := fun hn hm hs =>
    Record.lookup_of_mem (hcount _ hn) (Record.mem_of_member hfound hm hs)
  have hneeded : ∀ name ∈ requiredNames, name ∈ memberNames := by decide
  intro hfaulty
  cases hfaulty with
  | @twice name first second hn hs hfirst hsecond =>
    have hnames : ∀ member ∈ [first, second], member.1.Spells name.toList :=
      List.forall_mem_cons.2 ⟨hfirst, List.forall_mem_singleton.2 hsecond⟩
    have htwo : 2 ≤ (fields.map Prod.fst).count name := Record.length_le_count hfound hs hnames
    have hone := hcount name hn
    omega
  | @missing name hn hmissing =>
    obtain ⟨text, htext⟩ := hrequired name hn
    obtain ⟨value, hlookup, -⟩ := Option.bind_eq_some_iff.1 htext
    obtain ⟨member, hm, hread, -⟩ := Record.exists_member_of_mem hfound (Record.mem_of_lookup hlookup)
    exact hmissing member hm (Text.spells_of_toString? (fourDigits_of_member hw hm).1 hread)
  | @noText name member hn hm hs hno =>
    obtain ⟨text, htext⟩ := hrequired name hn
    rw [Record.required, hmember (hneeded name hn) hm hs, Option.bind_some] at htext
    exact hno text (Value.standsFor_of_text? (fourDigits_of_member hw hm).2 htext)
  | @noBool member hm hs hbool hnull =>
    rw [Record.optional, hmember (by decide) hm hs] at hoption
    split at hoption
    · next heq => exact hnull (Option.some.inj heq)
    · next heq =>
      obtain ⟨b, hb, -⟩ := Option.map_eq_some_iff.1 hoption
      rw [← Option.some.inj heq] at hb
      exact hbool b (Value.bool?_eq_some_iff.1 hb)
    · next heq => cases heq

/-! ### JSON texts -/

/-- Every JSON text of an object is read member by member: when its members, in some order and among others under other
names, list client data, this client data is returned, and when they are faulty, the text is refused. -/
theorem parse_written_object (hw : (Value.object members).WrittenAs json) :
    (∀ (data : ClientData) (fields known others : Record), Record.Of members fields →
        fields.Perm (known ++ others) → (∀ field ∈ others, field.1 ∉ memberNames) → data.Lists known →
        (parse json).outcome = .ok data) ∧
      (Faulty members → (parse json).outcome = .error (.invalidClientData .json)) := by
  have hread : read? json = ofJson? (.object members) := by
    rw [read?, parse?_of_writtenAs hw, Option.bind_some]
  constructor
  · intro data fields known others hof hp ho hl
    rw [outcome_parse_ok, hread]
    exact ofJson?_of_lists (Record.found_of_of hof) hp ho hl
  · intro hfaulty
    cases houtcome : (parse json).outcome with
    | ok data =>
      rw [outcome_parse_ok, hread] at houtcome
      exact absurd hfaulty (not_faulty_of_ofJson? hw houtcome)
    | error failure => rw [failsOnlyWith_parse failure houtcome]

/-! ### A text -/

/-- Members in an order of their own, one of them under an escaped name and one under a name that nobody asks for. -/
def sampleMembers : List (Text × Value) :=
  [(Text.ofString "origin", .ofString "a"), (.unit 0x74 :: Text.ofString "ype", .ofString "b"),
    (Text.ofString "x", .array [.null]), (Text.ofString "challenge", .ofString "c")]

/-- A JSON text of these members. -/
def sampleText : Bytes :=
  Utf8.encode "\x7b\"origin\":\"a\", \"\\u0074ype\":\"b\",\"x\":[null],\"challenge\":\"c\"\x7d"

/-- The members are written in the text. -/
theorem sampleMembers_writtenAs : (Value.object sampleMembers).WrittenAs sampleText := by
  have hplain : ∀ text ∈ ["origin", "a", "ype", "b", "x", "challenge", "c"], ∀ b ∈ Utf8.encode text,
      0x20 ≤ b.toNat ∧ b ≠ 0x22 ∧ b ≠ 0x5c := by
    decide +kernel
  have htext : ∀ text ∈ ["origin", "a", "ype", "b", "x", "challenge", "c"],
      (Text.ofString text).WrittenAs (Utf8.encode text) := fun text ht =>
    Text.writtenAs_bytes (hplain text ht)
  have hescaped : Text.WrittenAs (.unit 0x74 :: Text.ofString "ype")
      ([0x5c, 0x75, 0x30, 0x30, 0x37, 0x34] ++ Utf8.encode "ype") :=
    .cons (.unit (.decimal (by decide : 0 < 10)) (.decimal (by decide : 0 < 10))
      (.decimal (by decide : 7 < 10)) (.decimal (by decide : 4 < 10))) (htext _ (by decide))
  have hnone : Blanks [] := nofun
  have hblank : Blanks [0x20] := by
    unfold Blanks
    decide +kernel
  have hlayout : Layout (Value.object sampleMembers).tokens _ :=
    .tight .openObject <| .tight (.text (htext "origin" (by decide))) <| .tight .colon <|
    .tight (.text (htext "a" (by decide))) <| .tight .comma <|
    .cons hblank (.text hescaped) <| .tight .colon <|
    .tight (.text (htext "b" (by decide))) <| .tight .comma <|
    .tight (.text (htext "x" (by decide))) <| .tight .colon <|
    .tight .openArray <| .tight .null <| .tight .closeArray <| .tight .comma <|
    .tight (.text (htext "challenge" (by decide))) <| .tight .colon <|
    .tight (.text (htext "c" (by decide))) <| .tight .closeObject <| .nil hnone
  refine (congrArg (Layout _) ?_).mp hlayout
  decide +kernel

/-- The text is read as what its members list, and an object without members is refused. -/
theorem sample_parse_written_object :
    (Value.object sampleMembers).WrittenAs sampleText ∧
      (parse sampleText).outcome = .ok ⟨"b", "c", "a", none, none⟩ ∧
      (parse (Utf8.encode "\x7b\x7d")).outcome = .error (.invalidClientData .json) := by
  refine ⟨sampleMembers_writtenAs, ?_, ?_⟩
  · let known : Record :=
      [("type", .ofString "b"), ("challenge", .ofString "c"), ("origin", .ofString "a")] ++ ([] ++ [])
    let others : Record := [("x", .array [.null])]
    let fields : Record :=
      [("origin", .ofString "a"), ("type", .ofString "b"), ("x", .array [.null]),
        ("challenge", .ofString "c")]
    have hspells : ∀ text, (Value.ofString text).StandsFor text := fun text =>
      ⟨_, rfl, Text.spells_ofString text⟩
    have hof : Record.Of sampleMembers fields :=
      .cons ⟨Text.spells_ofString "origin", rfl⟩ <|
      .cons ⟨(Text.spells_ofString "ype").unit (c := 't') (by decide), rfl⟩ <|
      .cons ⟨Text.spells_ofString "x", rfl⟩ <|
      .cons ⟨Text.spells_ofString "challenge", rfl⟩ .nil
    have hperm : fields.Perm (known ++ others) :=
      (List.Perm.swap ("type", Value.ofString "b") ("origin", Value.ofString "a") _).trans
        ((@List.perm_append_comm _ [("origin", Value.ofString "a"), ("x", Value.array [.null])]
          [("challenge", Value.ofString "c")]).cons _)
    have hothers : ∀ field ∈ others, field.1 ∉ memberNames :=
      List.forall_mem_singleton.2 (by decide)
    have hlists : (ClientData.mk "b" "c" "a" none none).Lists known :=
      .mk (hspells "b") (hspells "c") (hspells "a") .leftOut .leftOut
    exact (parse_written_object sampleMembers_writtenAs).1 _ fields known others hof hperm hothers hlists
  · have hwritten : (Value.object []).WrittenAs (Utf8.encode "\x7b\x7d") := by
      have hlayout : Layout (Value.object []).tokens _ :=
        .tight .openObject <| .tight .closeObject <| @Layout.nil [] nofun
      refine (congrArg (Layout _) ?_).mp hlayout
      decide +kernel
    have hmissing : Faulty [] := @Faulty.missing [] "type" (by decide) nofun
    exact (parse_written_object hwritten).2 hmissing

end WebAuthn.ClientData
