import AqlClient.Gateway.Exchange
import AqlClient.Proofs.Judgement
import AqlClient.Proofs.Json
import AqlClient.Query.Options

/-!
# Payloads as answers

What a caller hands over is richer than JSON, and some of it does not come back as it was: a tuple
comes back as a list, a key that is a number as a text. The values that come back as they were are
those of `Value.Plain`: null, flags, integers that are not too long to be read, texts, lists, and
dictionaries under names. Such a value is written without fail, and the reader takes it off the
front of any text that goes on with a separator or a bracket (`Value.ReadsBack`,
`Value.Plain.readsBack`).

A payload starts with a brace and has no zero character in it, control characters being escaped. So
its bytes are never taken for a wide encoding, and an answer that carries a payload as its body holds
that payload (`Value.payload_comes_back`).
-/

namespace AqlClient

namespace Value

/-- **The values that JSON carries as they are.** No name occurs twice in a dictionary. -/
inductive Plain : Value → Prop
  | null : Plain .null
  | bool (b : Bool) : Plain (.bool b)
  | int (i : Int) (short : (Numeral.digits i.natAbs).length ≤ Json.Reader.maxDigits) :
      Plain (.int i)
  | str (s : String) : Plain (.str s)
  | list (items : List Value) (plain : ∀ item ∈ items, Plain item) : Plain (.list items)
  | dict (fields : Named Value) (distinct : (fields.map Prod.fst).Nodup)
      (plain : ∀ field ∈ fields, Plain field.2) :
      Plain (ofNamed fields)

/-- The text of a value, and what it is read as wherever it stands. -/
structure ReadsBack (v : Value) (cs : List Char) (j : Json) : Prop where
  written : v.writeChars = .ok cs
  same : ofJson j = v
  starts : Json.Reader.Starts cs
  nonzero : ∀ c ∈ cs, c.toNat ≠ 0
  reads : ∀ fuel rest, cs.length ≤ fuel → Json.Reader.Ends rest →
    Json.Reader.value fuel (Text.ofChars cs ++ rest) = some (j, rest)

/-! ### Characters of texts -/

theorem nonzero_of_all {cs : List Char} (h : cs.all (fun c => c.toNat != 0) = true) :
    ∀ c ∈ cs, c.toNat ≠ 0 :=
  fun c hc => bne_iff_ne.1 (List.all_eq_true.1 h c hc)

theorem small_nonzero : ∀ d < 16, (Hex.small d).toNat ≠ 0 := by
  decide

theorem digitChar_nonzero : ∀ d < 10, (Numeral.digitChar d).toNat ≠ 0 := by
  decide

theorem shortEscape_nonzero {e c : Char} (h : Json.Reader.shortEscape? e = some c) :
    e.toNat ≠ 0 := by
  intro hzero
  rw [← Char.ofNat_toNat e, hzero] at h
  cases h

theorem writeChar_nonzero (c : Char) : ∀ c' ∈ writeChar c, c'.toNat ≠ 0 := by
  have hwritten := Json.Reader.written_writeChar c
  generalize writeChar c = chars at hwritten ⊢
  cases hwritten with
  | short _ hescape =>
    refine List.forall_mem_cons.2 ⟨by decide, List.forall_mem_singleton.2 ?_⟩
    exact shortEscape_nonzero hescape
  | numbered hcontrol =>
    rw [Json.Reader.padded_control _ hcontrol]
    refine List.forall_mem_cons.2 ⟨by decide, List.forall_mem_cons.2 ⟨by decide, ?_⟩⟩
    refine List.forall_mem_cons.2 ⟨by decide, List.forall_mem_cons.2 ⟨by decide, ?_⟩⟩
    refine List.forall_mem_cons.2 ⟨?_, List.forall_mem_singleton.2 ?_⟩
    · exact small_nonzero _ (by omega)
    · exact small_nonzero _ (by omega)
  | plain _ _ hcontrol =>
    refine List.forall_mem_singleton.2 ?_
    omega

theorem writeString_nonzero (s : String) : ∀ c ∈ writeString s, c.toNat ≠ 0 := by
  have hquote : '"'.toNat ≠ 0 := by decide
  intro c hc
  rw [writeString, List.mem_append, List.mem_cons, List.mem_flatMap, List.mem_singleton] at hc
  rcases hc with (rfl | ⟨c', -, hc⟩) | rfl
  · exact hquote
  · exact writeChar_nonzero c' c hc
  · exact hquote

theorem intChars_nonzero (i : Int) : ∀ c ∈ Numeral.intChars i, c.toNat ≠ 0 := by
  have hnat : ∀ n, ∀ c ∈ Numeral.natChars n, c.toNat ≠ 0 := by
    intro n c hc
    obtain ⟨d, hd, rfl⟩ := List.mem_map.1 hc
    exact digitChar_nonzero d (Numeral.digits_lt_ten n d hd)
  cases i with
  | ofNat n => exact hnat n
  | negSucc n => exact List.forall_mem_cons.2 ⟨by decide, hnat (n + 1)⟩

/-! ### Parts of texts -/

theorem starts_writeString (s : String) : Json.Reader.Starts (writeString s) := by
  refine ⟨'"', s.toList.flatMap writeChar ++ ['"'], rfl, rfl, by decide⟩

theorem starts_intChars (i : Int) : Json.Reader.Starts (Numeral.intChars i) := by
  have hdigit : ∀ d < 10, Json.Reader.isSpace (.char (Numeral.digitChar d)) = false ∧
      Numeral.digitChar d ≠ ']' := by decide
  cases i with
  | ofNat n =>
    obtain ⟨d, ds, hdigits, hd, -⟩ := Json.Reader.digits_cons n
    refine ⟨Numeral.digitChar d, ds.map Numeral.digitChar, ?_, hdigit d hd⟩
    show Numeral.natChars n = _
    rw [Numeral.natChars, hdigits, List.map_cons]
  | negSucc n => exact ⟨'-', Numeral.natChars (n + 1), rfl, rfl, by decide⟩

theorem ends_of_head {p : CodePoint} (h : p = .char ',' ∨ p = .char ']' ∨ p = .char '\x7d')
    (rest : Text) : Json.Reader.Ends (p :: rest) := by
  rintro _ ⟨⟩
  exact h

/-! ### Items -/

/-- The text of the items of a list, and what they are read as. -/
structure ItemsReadBack (items : List Value) (cs : List Char) (js : List Json) : Prop where
  written : writeItems items = .ok cs
  same : ofJsonItems js = items
  starts : Json.Reader.Starts cs
  nonzero : ∀ c ∈ cs, c.toNat ≠ 0
  reads : ∀ fuel rest, cs.length < fuel →
    Json.Reader.items fuel (Text.ofChars cs ++ .char ']' :: rest) = some (js, rest)

theorem ReadsBack.last {item : Value} {cs : List Char} {j : Json} (h : item.ReadsBack cs j) :
    ItemsReadBack [item] cs [j] where
  written := h.written
  same := by rw [ofJsonItems, h.same, ofJsonItems]
  starts := h.starts
  nonzero := h.nonzero
  reads := by
    intro fuel rest hfuel
    obtain ⟨fuel, rfl⟩ : ∃ n, fuel = n + 1 := ⟨fuel - 1, by omega⟩
    exact Json.Reader.items_last
      (h.reads fuel _ (by omega) (ends_of_head (.inr (.inl rfl)) rest))

theorem ReadsBack.cons {item next : Value} {items : List Value} {cs ds : List Char} {j : Json}
    {js : List Json} (h : item.ReadsBack cs j) (hs : ItemsReadBack (next :: items) ds js) :
    ItemsReadBack (item :: next :: items) (cs ++ ',' :: ds) (j :: js) where
  written := by
    rw [writeItems, h.written]
    · dsimp only
      rw [hs.written]
      rfl
    · nofun
  same := by rw [ofJsonItems, h.same, hs.same]
  starts := by
    obtain ⟨c, tail, rfl, hc⟩ := h.starts
    exact ⟨c, tail ++ ',' :: ds, rfl, hc⟩
  nonzero := by
    refine List.forall_mem_append.2 ⟨h.nonzero, List.forall_mem_cons.2 ⟨by decide, hs.nonzero⟩⟩
  reads := by
    intro fuel rest hfuel
    obtain ⟨fuel, rfl⟩ : ∃ n, fuel = n + 1 := ⟨fuel - 1, by omega⟩
    rw [List.length_append, List.length_cons] at hfuel
    have hitem := h.reads fuel (.char ',' :: (Text.ofChars ds ++ .char ']' :: rest)) (by omega)
      (ends_of_head (.inl rfl) _)
    have hsplit : Text.ofChars (cs ++ ',' :: ds) ++ .char ']' :: rest =
        Text.ofChars cs ++ .char ',' :: (Text.ofChars ds ++ .char ']' :: rest) := by
      rw [Text.ofChars_append, List.append_assoc]
      rfl
    rw [hsplit, Json.Reader.items_next hs.starts hitem, hs.reads fuel rest (by omega)]
    rfl

/-- The items of a list are read back if each of them is. -/
theorem itemsReadBack {item : Value} {items : List Value}
    (h : ∀ v ∈ item :: items, ∃ cs j, v.ReadsBack cs j) :
    ∃ cs js, ItemsReadBack (item :: items) cs js := by
  induction items generalizing item with
  | nil =>
    obtain ⟨cs, j, hj⟩ := h item List.mem_cons_self
    exact ⟨cs, [j], hj.last⟩
  | cons next items ih =>
    obtain ⟨cs, j, hj⟩ := h item List.mem_cons_self
    obtain ⟨ds, js, hjs⟩ := ih fun v hv => h v (List.mem_cons_of_mem item hv)
    exact ⟨cs ++ ',' :: ds, j :: js, hj.cons hjs⟩

/-! ### Fields -/

/-- The text of the fields of an object, and what they are read as. -/
structure FieldsReadBack (fields : Named Value) (cs : List Char) (js : Fields) : Prop where
  written : writeEntries (fields.map fun field => (.str field.1, field.2)) = .ok cs
  same : ofJsonFields js = fields.map fun field => (.str field.1, field.2)
  names : js.map Prod.fst = (fields.map Prod.fst).map Text.ofString
  starts : ∃ name tail, cs = writeString name ++ tail
  nonzero : ∀ c ∈ cs, c.toNat ≠ 0
  reads : ∀ fuel rest, cs.length < fuel →
    Json.Reader.pairs fuel (Text.ofChars cs ++ .char '\x7d' :: rest) = some (js, rest)

theorem ReadsBack.lastField {field : String × Value} {cs : List Char} {j : Json}
    (h : field.2.ReadsBack cs j) :
    FieldsReadBack [field] (writeString field.1 ++ ':' :: cs) [(Text.ofString field.1, j)] where
  written := by
    rw [List.map_singleton, writeEntries, keyText]
    dsimp only
    rw [h.written]
    rfl
  same := by
    rw [ofJsonFields, h.same, ofJsonFields, Text.shown_ofString]
    rfl
  names := rfl
  starts := ⟨field.1, ':' :: cs, rfl⟩
  nonzero := List.forall_mem_append.2
    ⟨writeString_nonzero field.1, List.forall_mem_cons.2 ⟨by decide, h.nonzero⟩⟩
  reads := by
    intro fuel rest hfuel
    obtain ⟨fuel, rfl⟩ : ∃ n, fuel = n + 1 := ⟨fuel - 1, by omega⟩
    rw [List.length_append, List.length_cons] at hfuel
    rw [Text.ofChars_append, List.append_assoc]
    exact Json.Reader.pairs_last field.1 h.starts
      (h.reads fuel _ (by omega) (ends_of_head (.inr (.inr rfl)) rest))

theorem ReadsBack.consField {field next : String × Value} {fields : Named Value}
    {cs ds : List Char} {j : Json} {js : Fields} (h : field.2.ReadsBack cs j)
    (hs : FieldsReadBack (next :: fields) ds js) :
    FieldsReadBack (field :: next :: fields) (writeString field.1 ++ ':' :: cs ++ ',' :: ds)
      ((Text.ofString field.1, j) :: js) where
  written := by
    have hwritten := hs.written
    rw [List.map_cons] at hwritten ⊢
    rw [writeEntries, keyText]
    · dsimp only
      rw [h.written]
      dsimp only
      rw [List.map_cons, hwritten]
      rfl
    · rw [List.map_cons]
      nofun
  same := by
    rw [ofJsonFields, h.same, hs.same, Text.shown_ofString]
    rfl
  names := by
    rw [List.map_cons, hs.names]
    rfl
  starts := ⟨field.1, ':' :: cs ++ ',' :: ds, by rw [List.append_assoc]⟩
  nonzero := by
    refine List.forall_mem_append.2 ⟨List.forall_mem_append.2 ⟨writeString_nonzero field.1, ?_⟩, ?_⟩
    · exact List.forall_mem_cons.2 ⟨by decide, h.nonzero⟩
    · exact List.forall_mem_cons.2 ⟨by decide, hs.nonzero⟩
  reads := by
    intro fuel rest hfuel
    obtain ⟨fuel, rfl⟩ : ∃ n, fuel = n + 1 := ⟨fuel - 1, by omega⟩
    have hlength : cs.length + ds.length + 1 < fuel + 1 := by
      simp only [List.length_append, List.length_cons] at hfuel
      omega
    have hnext := hs.reads fuel rest (by omega)
    have hfield := h.reads fuel (.char ',' :: (Text.ofChars ds ++ .char '\x7d' :: rest)) (by omega)
      (ends_of_head (.inl rfl) _)
    have hsplit : Text.ofChars (writeString field.1 ++ ':' :: cs ++ ',' :: ds) ++
          .char '\x7d' :: rest =
        Text.ofChars (writeString field.1) ++ .char ':' ::
          (Text.ofChars cs ++ .char ',' :: (Text.ofChars ds ++ .char '\x7d' :: rest)) := by
      rw [Text.ofChars_append, Text.ofChars_append, List.append_assoc, List.append_assoc]
      rfl
    rw [hsplit]
    -- the reader looks for the next name before it goes on
    obtain ⟨name, tail, rfl⟩ := hs.starts
    rw [Text.ofChars_append, List.append_assoc] at hnext hfield ⊢
    rw [Json.Reader.pairs_next field.1 name h.starts hfield, hnext]
    rfl

/-- The fields of an object are read back if the value of each of them is. -/
theorem fieldsReadBack {field : String × Value} {fields : Named Value}
    (h : ∀ f ∈ field :: fields, ∃ cs j, f.2.ReadsBack cs j) :
    ∃ cs js, FieldsReadBack (field :: fields) cs js := by
  induction fields generalizing field with
  | nil =>
    obtain ⟨cs, j, hj⟩ := h field List.mem_cons_self
    exact ⟨_, _, hj.lastField⟩
  | cons next fields ih =>
    obtain ⟨cs, j, hj⟩ := h field List.mem_cons_self
    obtain ⟨ds, js, hjs⟩ := ih fun f hf => h f (List.mem_cons_of_mem field hf)
    exact ⟨_, _, hj.consField hjs⟩

/-! ### Values -/

/-- A value without parts is read back if the reader takes it off the front. -/
theorem ReadsBack.scalar {v : Value} {cs : List Char} {j : Json} (written : v.writeChars = .ok cs)
    (same : ofJson j = v) (starts : Json.Reader.Starts cs) (nonzero : ∀ c ∈ cs, c.toNat ≠ 0)
    (reads : ∀ fuel rest, Json.Reader.Ends rest →
      Json.Reader.value (fuel + 1) (Text.ofChars cs ++ rest) = some (j, rest)) :
    v.ReadsBack cs j where
  written := written
  same := same
  starts := starts
  nonzero := nonzero
  reads := by
    intro fuel rest hfuel hrest
    obtain ⟨c, tail, rfl, -⟩ := starts
    rw [List.length_cons] at hfuel
    obtain ⟨fuel, rfl⟩ : ∃ n, fuel = n + 1 := ⟨fuel - 1, by omega⟩
    exact reads fuel rest hrest

theorem ItemsReadBack.list {items : List Value} {cs : List Char} {js : List Json}
    (h : ItemsReadBack items cs js) : (Value.list items).ReadsBack ('[' :: cs ++ [']']) (.arr js) where
  written := by rw [writeChars, h.written]; rfl
  same := by rw [ofJson, h.same]
  starts := ⟨'[', cs ++ [']'], rfl, rfl, by decide⟩
  nonzero := List.forall_mem_cons.2 ⟨by decide, List.forall_mem_append.2
    ⟨h.nonzero, List.forall_mem_singleton.2 (by decide)⟩⟩
  reads := by
    intro fuel rest hfuel hrest
    rw [List.length_append, List.length_cons, List.length_singleton] at hfuel
    obtain ⟨fuel, rfl⟩ : ∃ n, fuel = n + 1 := ⟨fuel - 1, by omega⟩
    calc Json.Reader.value (fuel + 1) (Text.ofChars ('[' :: cs ++ [']']) ++ rest)
      _ = Json.Reader.value (fuel + 1)
          (.char '[' :: (Text.ofChars cs ++ .char ']' :: rest)) := by
        rw [Text.ofChars_append, List.append_assoc]
        rfl
      _ = some (.arr js, rest) := by
        rw [Json.Reader.value_list h.starts, h.reads fuel rest (by omega)]
        rfl

theorem FieldsReadBack.object {fields : Named Value} {cs : List Char} {js : Fields}
    (hdistinct : (fields.map Prod.fst).Nodup) (h : FieldsReadBack fields cs js) :
    (ofNamed fields).ReadsBack ('\x7b' :: cs ++ ['\x7d']) (.obj js) where
  written := by rw [ofNamed, writeChars, h.written]; rfl
  same := by rw [ofJson, h.same]; rfl
  starts := ⟨'\x7b', cs ++ ['\x7d'], rfl, rfl, by decide⟩
  nonzero := List.forall_mem_cons.2 ⟨by decide, List.forall_mem_append.2
    ⟨h.nonzero, List.forall_mem_singleton.2 (by decide)⟩⟩
  reads := by
    intro fuel rest hfuel hrest
    rw [List.length_append, List.length_cons, List.length_singleton] at hfuel
    obtain ⟨fuel, rfl⟩ : ∃ n, fuel = n + 1 := ⟨fuel - 1, by omega⟩
    have hpairs := h.reads fuel rest (by omega)
    have hnames : (js.map Prod.fst).Nodup := by
      rw [h.names]
      exact List.pairwise_map.2 (hdistinct.imp fun hne heq => hne (Text.ofString_injective heq))
    have hkept : Named.ofPairs js = js := Named.ofPairs_of_nodup hnames
    obtain ⟨name, tail, rfl⟩ := h.starts
    rw [Text.ofChars_append, List.append_assoc] at hpairs
    calc Json.Reader.value (fuel + 1)
          (Text.ofChars ('\x7b' :: (writeString name ++ tail) ++ ['\x7d']) ++ rest)
      _ = Json.Reader.value (fuel + 1) (.char '\x7b' :: (Text.ofChars (writeString name) ++
          (Text.ofChars tail ++ .char '\x7d' :: rest))) := by
        rw [Text.ofChars_append, ← List.cons_append, Text.ofChars_append, List.append_assoc,
          List.append_assoc]
        rfl
      _ = some (.obj (Named.ofPairs js), rest) := by
        rw [Json.Reader.value_object, hpairs]
        rfl
      _ = some (.obj js, rest) := by rw [hkept]

/-- **A value that JSON carries as it is comes back as it was,** wherever its text stands. -/
theorem Plain.readsBack {v : Value} (h : v.Plain) : ∃ cs j, v.ReadsBack cs j := by
  -- on how the value is built: a container is read back because its parts are
  induction h with
  | null =>
    refine ⟨"null".toList, .null, .scalar rfl rfl ⟨'n', _, rfl, rfl, by decide⟩
      (nonzero_of_all (by decide)) ?_⟩
    exact fun _ _ _ => rfl
  | bool b =>
    cases b with
    | true =>
      refine ⟨"true".toList, .bool true, .scalar rfl rfl ⟨'t', _, rfl, rfl, by decide⟩
        (nonzero_of_all (by decide)) ?_⟩
      exact fun _ _ _ => rfl
    | false =>
      refine ⟨"false".toList, .bool false, .scalar rfl rfl ⟨'f', _, rfl, rfl, by decide⟩
        (nonzero_of_all (by decide)) ?_⟩
      exact fun _ _ _ => rfl
  | int i hshort =>
    refine ⟨Numeral.intChars i, .int i, .scalar rfl rfl (starts_intChars i) (intChars_nonzero i) ?_⟩
    exact fun fuel _ hrest => Json.Reader.value_int fuel hshort hrest
  | str s =>
    have hshown : ofJson (.str s) = .str s := congrArg Value.str (Text.shown_ofString s)
    refine ⟨writeString s, .str s,
      .scalar rfl hshown (starts_writeString s) (writeString_nonzero s) ?_⟩
    exact fun fuel rest _ => Json.Reader.value_string fuel s rest
  | list items _ ih =>
    cases items with
    | nil =>
      refine ⟨['[', ']'], .arr [], .scalar rfl rfl ⟨'[', _, rfl, rfl, by decide⟩
        (nonzero_of_all (by decide)) ?_⟩
      exact fun _ _ _ => rfl
    | cons item items =>
      obtain ⟨cs, js, hitems⟩ := itemsReadBack ih
      exact ⟨_, _, hitems.list⟩
  | dict fields hdistinct _ ih =>
    cases fields with
    | nil =>
      refine ⟨['\x7b', '\x7d'], .obj [], .scalar rfl rfl ⟨'\x7b', _, rfl, rfl, by decide⟩
        (nonzero_of_all (by decide)) ?_⟩
      exact fun _ _ _ => rfl
    | cons field fields =>
      obtain ⟨cs, js, hfields⟩ := fieldsReadBack ih
      exact ⟨_, _, hfields.object hdistinct⟩

/-- The text of a value is a document of it. -/
theorem ReadsBack.parse? {v : Value} {cs : List Char} {j : Json} (h : v.ReadsBack cs j)
    (hascii : ∀ c ∈ cs.head?, c.toNat < 0x80) :
    Document.parse? (Utf8.encode (String.ofList cs)) = some j := by
  have hreads := h.reads (2 * (Text.ofChars cs).length + 2) []
    (by rw [Text.ofChars, List.length_map]; omega) Json.Reader.ends_nil
  have hskip := h.starts.skipSpace []
  rw [List.append_nil] at hreads hskip
  have hparse : Json.parseText? (Text.ofChars cs) = some j := by
    unfold Json.parseText?
    rw [hskip, hreads]
    rfl
  obtain ⟨c, tail, rfl, -⟩ := h.starts
  unfold Document.parse? Utf8.encode
  rw [String.toList_ofList, Document.text?_encodeChars (hascii c rfl) h.nonzero]
  exact hparse

/-- **A payload comes back as it was.** A dictionary that JSON carries as it is can be sent, and a
body of the bytes that are sent holds that very dictionary, its entries in the same order at every
level. An answer with such a body is read as the dictionary, whatever its status, unless it has a
field by the name of the error flag. -/
theorem payload_comes_back (payload : Entries) (h : (Value.dict payload).Plain) :
    ∃ text, (Value.dict payload).encodePayload = .ok (some text) ∧
      Envelope.held? (Utf8.encode text) = some (.dict payload) ∧
      (payload.get? "error" = none → ∀ status headers request,
        Envelope.read ⟨status, headers, Utf8.encode text⟩ request = .ok payload) := by
  obtain ⟨cs, j, hback⟩ := h.readsBack
  have hascii : ∀ c ∈ cs.head?, c.toNat < 0x80 := by
    have hwritten := hback.written
    rw [writeChars] at hwritten
    cases hentries : writeEntries payload with
    | error e =>
      rw [hentries] at hwritten
      cases hwritten
    | ok inner =>
      rw [hentries] at hwritten
      cases hwritten
      rintro _ ⟨⟩
      decide
  have hheld : Envelope.held? (Utf8.encode (String.ofList cs)) = some (.dict payload) := by
    rw [Envelope.held?, hback.parse? hascii, Option.map_some, hback.same]
  refine ⟨String.ofList cs, ?_, hheld, fun herror status headers request => ?_⟩
  · unfold encodePayload write
    dsimp only
    rw [hback.written]
    rfl
  · exact Envelope.read_of_held hheld herror

/-- A payload with characters that have to be escaped and characters beyond ASCII, integers on either
side of zero, and a dictionary inside of a list, its names out of order. -/
def specimenPayload : Named Value :=
  [("a\"\\\u0000é😀", .list [.null, .bool true, .int (-120), .int 0]),
    ("", .list [ofNamed [("b", .str "\n"), ("a", .list [])]])]

theorem payload_comes_back_specimen :
    ∃ text, (ofNamed specimenPayload).encodePayload = .ok (some text) ∧
      Envelope.held? (Utf8.encode text) = some (ofNamed specimenPayload) ∧
      ∃ envelope, Value.dict envelope = ofNamed specimenPayload ∧
        Envelope.read ⟨404, [], Utf8.encode text⟩ none = .ok envelope := by
  have hfirst : Plain (.list [.null, .bool true, .int (-120), .int 0]) := by
    refine .list _ (List.forall_mem_cons.2 ⟨.null, List.forall_mem_cons.2 ⟨.bool true, ?_⟩⟩)
    refine List.forall_mem_cons.2 ⟨.int (-120) ?_, List.forall_mem_singleton.2 (.int 0 ?_)⟩
    · simp [Numeral.digits, Json.Reader.maxDigits]
    · simp [Numeral.digits, Json.Reader.maxDigits]
  have hsecond : Plain (.list [ofNamed [("b", .str "\n"), ("a", .list [])]]) := by
    refine .list _ (List.forall_mem_singleton.2 (.dict _ (by decide) ?_))
    refine List.forall_mem_cons.2 ⟨.str "\n", List.forall_mem_singleton.2 (.list [] ?_)⟩
    exact List.forall_mem_nil _
  have hplain : (ofNamed specimenPayload).Plain :=
    .dict _ (by decide) (List.forall_mem_cons.2 ⟨hfirst, List.forall_mem_singleton.2 hsecond⟩)
  obtain ⟨text, hsent, hheld, hread⟩ := payload_comes_back _ hplain
  exact ⟨text, hsent, hheld, _, rfl, hread rfl 404 [] none⟩

end Value

end AqlClient
