/-
Listings with one item a line: text and JSON lines can be read back, item by item.

A line of text is the name of a kind, a quoted text and a position; a JSON line is an object. Either can be read back
(`Readable`, `Escaping`, `JsonObjects`) and holds no line feed, so the lines of an output are the items, and the items
are determined by the output. With all segments listed, so is the source.

- `splitOn_unlines`: lines are found again, if none of them has a line feed in it.
- `OnLines.unlines_injective`: and so is what they were written from.
- `describe_injective`, `lineFeed_not_mem_describe`, `members_injective`: a line of text, and the members of an object.
- `textOf_placedSegments`: the listed segments make up the source.
- `Command.Reads.run_of_tokens`, `Command.Reads.run_of_segments`: what a run prints.
- **Outputs with one item a line are faithful** (`line_listings_are_faithful`): to the items and, with all segments
  listed, to the source.
-/
import FlowchartLexer.Proofs.JsonObjects
import FlowchartLexer.Proofs.ListingModes

namespace FlowchartLexer

/-! ## Lines -/

/-- lines without line feeds are found again, with nothing behind the last one -/
theorem splitOn_unlines {ls : List Text} (h : ∀ l ∈ ls, '\n' ∉ l) : (unlines ls).splitOn '\n' = ls ++ [[]] := by
  induction ls with
  | nil => rfl
  | cons l ls ih =>
    obtain ⟨hl, hls⟩ := List.forall_mem_cons.1 h
    rw [unlines, List.flatMap_cons, List.append_assoc]
    calc (l ++ '\n' :: unlines ls).splitOn '\n' = l :: (unlines ls).splitOn '\n' :=
          List.splitOn_append_cons_self_of_not_mem hl _
      _ = l :: ls ++ [[]] := by rw [ih hls, List.cons_append]

/-- a way of writing things, each on one line and no two of them alike -/
structure OnLines {α : Type} (f : α → Text) : Prop where
  injective : Function.Injective f
  lineFeed_not_mem : ∀ a, '\n' ∉ f a

section

variable {α : Type}

namespace OnLines

variable {f : α → Text} (hf : OnLines f)

include hf in
theorem splitOn (as : List α) : (unlines (as.map f)).splitOn '\n' = as.map f ++ [[]] := by
  apply splitOn_unlines
  intro l hl
  obtain ⟨a, -, rfl⟩ := List.mem_map.1 hl
  exact hf.lineFeed_not_mem a

include hf in
theorem unlines_injective : Function.Injective fun as : List α => unlines (as.map f) := by
  intro as bs h
  have hlines : as.map f ++ [[]] = bs.map f ++ [[]] := by
    calc as.map f ++ [[]] = (unlines (as.map f)).splitOn '\n' := (hf.splitOn as).symm
      _ = (unlines (bs.map f)).splitOn '\n' := congrArg _ h
      _ = bs.map f ++ [[]] := hf.splitOn bs
  exact List.map_injective_iff.2 hf.injective (List.append_cancel_right hlines)

end OnLines

/-- things whose items are all on one line, as text and as JSON, and no two of them alike -/
structure OnItemLines (item : α → ListingItem) : Prop where
  text : OnLines fun a => (item a).line
  json : OnLines fun a => (item a).members.compact

theorem OnItemLines.of_item {item : α → ListingItem} (hline : OnLines fun a => (item a).line)
    (hmembers : Function.Injective fun a => (item a).members) : OnItemLines item where
  text := hline
  json := ⟨(Json.readable_compact.injective trivial).comp hmembers, fun _ => Json.lineFeed_not_mem_compact _⟩

variable {item : α → ListingItem} (hitem : OnItemLines item)

include hitem in
/-- the lines of an output are the items -/
theorem OnItemLines.splitOn_writeListing (as : List α) :
    (writeListing (as.map item) .text).splitOn '\n' = as.map (fun a => (item a).line) ++ [[]] ∧
    (writeListing (as.map item) .ndjson).splitOn '\n' = as.map (fun a => (item a).members.compact) ++ [[]] := by
  simp only [writeListing, List.map_map]
  exact ⟨hitem.text.splitOn as, hitem.json.splitOn as⟩

include hitem in
/-- the output determines what was listed -/
theorem OnItemLines.writeListing_injective {format : ListingFormat} (hf : format ≠ .json) :
    Function.Injective fun as : List α => writeListing (as.map item) format := by
  cases format with
  | text => simpa only [writeListing, List.map_map, Function.comp_def] using hitem.text.unlines_injective
  | ndjson => simpa only [writeListing, List.map_map, Function.comp_def] using hitem.json.unlines_injective
  | json => exact absurd rfl hf

end

/-! ## Names and positions -/

section

variable {κ : Type} {name : κ → String}

/-- the names of all kinds are words, and no two of them are alike -/
structure NamedByWords (name : κ → String) (all : List κ) : Prop where
  mem_all : ∀ k, k ∈ all
  nodup : (all.map name).Nodup
  words : all.all fun k => (name k).toList.all Char.isAlphanum

namespace NamedByWords

variable {all : List κ} (h : NamedByWords name all)

include h in
theorem isWord (k : κ) : IsWord (name k).toList :=
  List.all_eq_true.1 (List.all_eq_true.1 h.words k (h.mem_all k))

include h in
theorem readable : ReadableBefore EndsWord fun k => (name k).toList := by
  apply readable_of_isWord
  · intro k l hkl
    exact List.inj_on_of_nodup_map h.nodup (h.mem_all k) (h.mem_all l) (String.toList_inj.1 hkl)
  · exact h.isWord

end NamedByWords

theorem TokenKind.namedByWords : NamedByWords TokenKind.name TokenKind.all :=
  ⟨mem_all, by decide +kernel, by decide +kernel⟩

theorem SegmentKind.namedByWords : NamedByWords SegmentKind.name SegmentKind.all :=
  ⟨mem_all, by decide +kernel, by decide +kernel⟩

theorem Position.render_injective : Function.Injective Position.render := by
  intro p q h
  obtain ⟨hline, hcolumns⟩ := readable_decimal (by simp) (by simp) h
  have hcolumn := readable_decimal.injective endsWord_nil (List.cons.inj hcolumns).2
  rw [Position.mk.injEq]
  exact ⟨hline, hcolumn⟩

theorem Position.lineFeed_not_mem_render (p : Position) : '\n' ∉ p.render := by
  have h := fun n => (isWord_decimal n).not_mem (c := '\n') (by decide)
  simp [render, h]

/-! ## Items -/

theorem describe_injective {all : List κ} (hname : NamedByWords name all) {k l : κ} {s t : Text} {p q : Position}
    (h : describe (name k) s p = describe (name l) t q) : k = l ∧ s = t ∧ p = q := by
  simp only [describe, List.append_assoc, List.cons_append] at h
  obtain ⟨rfl, hbehindName⟩ := hname.readable (by simp) (by simp) h
  obtain ⟨rfl, hbehindText⟩ := readable_quoted.of_eq (List.cons.inj hbehindName).2
  exact ⟨rfl, rfl, Position.render_injective (List.append_cancel_left hbehindText)⟩

/-- the members of an object that is written for a kind, a text and a position -/
theorem members_injective {all : List κ} (hname : NamedByWords name all) {key : Text} {k l : κ} {s t : Text}
    {p q : Position}
    (h : [(key, Json.Scalar.string (name k).toList), ("text".toList, .string s), ("line".toList, .number p.line),
        ("column".toList, .number p.column)] =
      [(key, .string (name l).toList), ("text".toList, .string t), ("line".toList, .number q.line),
        ("column".toList, .number q.column)]) : k = l ∧ s = t ∧ p = q := by
  simp only [List.cons.injEq, Prod.mk.injEq, true_and, and_true, Json.Scalar.string.injEq,
    Json.Scalar.number.injEq] at h
  obtain ⟨hk, rfl, hline, hcolumn⟩ := h
  rw [Position.mk.injEq]
  exact ⟨hname.readable.injective endsWord_nil hk, rfl, hline, hcolumn⟩

theorem lineFeed_not_mem_describe {all : List κ} (hname : NamedByWords name all) (k : κ) (t : Text) (p : Position) :
    '\n' ∉ describe (name k) t p := by
  have hk := (hname.isWord k).not_mem (c := '\n') (by decide)
  simp [describe, hk, lineFeed_not_mem_quoted, Position.lineFeed_not_mem_render]

end

theorem Token.onLines_render : OnLines Token.render where
  injective := by
    rintro ⟨k, s, p⟩ ⟨l, t, q⟩ h
    obtain ⟨rfl, rfl, rfl⟩ := describe_injective TokenKind.namedByWords h
    rfl
  lineFeed_not_mem t := lineFeed_not_mem_describe TokenKind.namedByWords _ _ _

theorem PlacedSegment.onLines_render : OnLines PlacedSegment.render where
  injective := by
    rintro ⟨⟨k, s⟩, p⟩ ⟨⟨l, t⟩, q⟩ h
    obtain ⟨rfl, rfl, rfl⟩ := describe_injective SegmentKind.namedByWords h
    rfl
  lineFeed_not_mem s := lineFeed_not_mem_describe SegmentKind.namedByWords _ _ _

example : PlacedSegment.render ⟨⟨.lexeme .string, "\"x\" at 1.1\n\"".toList⟩, ⟨2, 3⟩⟩ =
    "String \"\\\"x\\\" at 1.1\\n\\\"\" at 2.3".toList := by
  decide +kernel

theorem Token.toJson_injective : Function.Injective Token.toJson := by
  rintro ⟨k, s, p⟩ ⟨l, t, q⟩ h
  obtain ⟨rfl, rfl, rfl⟩ := members_injective TokenKind.namedByWords h
  rfl

theorem PlacedSegment.toJson_injective : Function.Injective PlacedSegment.toJson := by
  rintro ⟨⟨k, s⟩, p⟩ ⟨⟨l, t⟩, q⟩ h
  obtain ⟨rfl, rfl, rfl⟩ := members_injective SegmentKind.namedByWords h
  rfl

theorem Token.onItemLines : OnItemLines Token.listingItem :=
  .of_item Token.onLines_render Token.toJson_injective

theorem PlacedSegment.onItemLines : OnItemLines PlacedSegment.listingItem :=
  .of_item PlacedSegment.onLines_render PlacedSegment.toJson_injective

/-! ## Sources -/

theorem map_segment_placedFrom (p : Position) (gs : List Segment) : (placedFrom p gs).map (·.segment) = gs := by
  induction gs generalizing p with
  | nil => rfl
  | cons g gs ih => rw [placedFrom_cons, List.map_cons, ih]

/-- the texts of all segments make up the source -/
theorem textOf_placedSegments {source : Text} {items : List PlacedSegment} (h : placedSegments source = .ok items) :
    textOf (items.map (·.segment)) = source := by
  rw [placedSegments_eq, Segmentation.resultOf_eq_ok_iff] at h
  obtain ⟨hu, rfl⟩ := h
  rw [map_segment_placedFrom, textOf_segments_of_unexpected_eq_none hu]

namespace Command

section

variable {read : Input → Except ReadError ByteArray} {words : List Text} {o : Options} {source : Text}

/-- a run that lists something prints it -/
theorem Reads.run_of_items (h : Reads read words o source) {items : List ListingItem}
    (hi : listingItems source o.mode = .ok items) : run read words = .success (writeListing items o.format) := by
  rw [h.run_eq, Options.list, hi]

theorem Reads.run_of_tokens (h : Reads read words o source) (hmode : o.mode = .tokens) {ts : List Token}
    (ht : tokenize source = .ok ts) : run read words = .success (writeListing (ts.map Token.listingItem) o.format) := by
  apply h.run_of_items
  rw [hmode, listingItems, ht]
  rfl

theorem Reads.run_of_segments (h : Reads read words o source) (hmode : o.mode = .segments) {ss : List PlacedSegment}
    (hs : placedSegments source = .ok ss) :
    run read words = .success (writeListing (ss.map PlacedSegment.listingItem) o.format) := by
  apply h.run_of_items
  rw [hmode, listingItems, hs]
  rfl

end

/-- **Outputs with one item a line are faithful** to what they list.
- There are segments for a whole source if there are tokens for it. A run that lists them prints them, one by one and in
  order. The lines of the text and of the JSON lines are the tokens, or the segments. Every line ends with a line feed,
  and there are no others, whatever the texts contain.
- No two tokens are written alike, be it as text or as JSON, and no two placed segments either.
- So equal outputs list equal tokens, or equal segments.
- If all segments of two sources are listed, equal outputs are of equal sources. -/
theorem line_listings_are_faithful :
    (∀ source, (∃ ss, placedSegments source = .ok ss) ↔ ∃ ts, tokenize source = .ok ts) ∧
    (∀ source ts, tokenize source = .ok ts →
      (∀ read words o, Reads read words o source → o.mode = .tokens →
        run read words = .success (writeListing (ts.map Token.listingItem) o.format)) ∧
      (writeListing (ts.map Token.listingItem) .text).splitOn '\n' = ts.map Token.render ++ [[]] ∧
      (writeListing (ts.map Token.listingItem) .ndjson).splitOn '\n' = ts.map (·.toJson.compact) ++ [[]]) ∧
    (∀ source ss, placedSegments source = .ok ss →
      (∀ read words o, Reads read words o source → o.mode = .segments →
        run read words = .success (writeListing (ss.map PlacedSegment.listingItem) o.format)) ∧
      (writeListing (ss.map PlacedSegment.listingItem) .text).splitOn '\n' = ss.map PlacedSegment.render ++ [[]] ∧
      (writeListing (ss.map PlacedSegment.listingItem) .ndjson).splitOn '\n' = ss.map (·.toJson.compact) ++ [[]]) ∧
    (Function.Injective Token.render ∧ Function.Injective (fun t : Token => t.toJson.compact) ∧
      Function.Injective PlacedSegment.render ∧ Function.Injective fun s : PlacedSegment => s.toJson.compact) ∧
    (∀ format, format ≠ .json →
      Function.Injective (fun ts : List Token => writeListing (ts.map Token.listingItem) format) ∧
      Function.Injective fun ss : List PlacedSegment => writeListing (ss.map PlacedSegment.listingItem) format) ∧
    ∀ source source' ss ss', placedSegments source = .ok ss → placedSegments source' = .ok ss' →
      ∀ read read' words words' o o', Reads read words o source → Reads read' words' o' source' →
        o.mode = .segments → o'.mode = .segments → o'.format = o.format → o.format ≠ .json →
        (run read words).output = (run read' words').output → source = source' := by
  refine ⟨exists_placedSegments_iff, ?_, ?_, ?_, ?_, ?_⟩
  · intro source ts ht
    refine ⟨?_, Token.onItemLines.splitOn_writeListing ts⟩
    intro read words o h hmode
    exact h.run_of_tokens hmode ht
  · intro source ss hs
    refine ⟨?_, PlacedSegment.onItemLines.splitOn_writeListing ss⟩
    intro read words o h hmode
    exact h.run_of_segments hmode hs
  · exact ⟨Token.onItemLines.text.injective, Token.onItemLines.json.injective,
      PlacedSegment.onItemLines.text.injective, PlacedSegment.onItemLines.json.injective⟩
  · intro format hformat
    exact ⟨Token.onItemLines.writeListing_injective hformat, PlacedSegment.onItemLines.writeListing_injective hformat⟩
  · intro source source' ss ss' hs hs' read read' words words' o o' h h' hmode hmode' hformat hjson hout
    rw [h.run_of_segments hmode hs, h'.run_of_segments hmode' hs', hformat] at hout
    obtain rfl := PlacedSegment.onItemLines.writeListing_injective hjson hout
    rw [← textOf_placedSegments hs, textOf_placedSegments hs']

/-- Two files have a string with quotation marks and a line break in it. They end in a blank and in a tab. Their tokens are
alike, one on each JSON line; their segments, one on each line of text, are not. -/
theorem lines_of_two_files :
    let source := "A \"x\ny\" ".toList
    let source' := "A \"x\ny\"\t".toList
    let d : Directory := ⟨[("a".toList, (String.ofList source).toUTF8), ("b".toList, (String.ofList source').toUTF8)]⟩
    let tokensOf (name : String) := (run (d.readInput .empty)
      (["tokens", "-fndjson", "--", name].map String.toList)).output
    let segmentsOf (name : String) := (run (d.readInput .empty)
      (["tokens", "--segments", "-ftext", "--", name].map String.toList)).output
    (tokensOf "a").splitOn '\n' =
      ["\x7b\"kind\":\"Identifier\",\"text\":\"A\",\"line\":1,\"column\":1\x7d".toList,
        "\x7b\"kind\":\"String\",\"text\":\"\\\"x\\ny\\\"\",\"line\":1,\"column\":3\x7d".toList,
        "\x7b\"kind\":\"EndOfInput\",\"text\":\"EOF\",\"line\":2,\"column\":4\x7d".toList, []] ∧
    (segmentsOf "a").splitOn '\n' =
      ["Identifier \"A\" at 1.1".toList, "Whitespace \" \" at 1.2".toList,
        "String \"\\\"x\\ny\\\"\" at 1.3".toList, "Whitespace \" \" at 2.3".toList, []] ∧
    tokensOf "a" = tokensOf "b" ∧ segmentsOf "a" ≠ segmentsOf "b" := by
  intro source source' d tokensOf segmentsOf
  let tokens : List Token :=
    [⟨.lexeme .identifier, ['A'], ⟨1, 1⟩⟩, ⟨.lexeme .string, "\"x\ny\"".toList, ⟨1, 3⟩⟩, .endOfInput ⟨2, 4⟩]
  let segments (blank : Char) : List PlacedSegment :=
    [⟨⟨.lexeme .identifier, ['A']⟩, ⟨1, 1⟩⟩, ⟨⟨.trivia .whitespace, [' ']⟩, ⟨1, 2⟩⟩,
      ⟨⟨.lexeme .string, "\"x\ny\"".toList⟩, ⟨1, 3⟩⟩, ⟨⟨.trivia .whitespace, [blank]⟩, ⟨2, 3⟩⟩]
  have ht : tokenize source = .ok tokens := by decide +kernel
  have ht' : tokenize source' = .ok tokens := by decide +kernel
  have hs : placedSegments source = .ok (segments ' ') := by decide +kernel
  have hs' : placedSegments source' = .ok (segments '\t') := by decide +kernel
  have ha : ∀ mode format, Reads (d.readInput .empty) (Options.words ⟨.file "a".toList, mode, format⟩)
      ⟨.file "a".toList, mode, format⟩ source := by
    intro mode format
    exact d.reads_file mode format (by decide) rfl (by decide) .empty
  have hb : ∀ mode format, Reads (d.readInput .empty) (Options.words ⟨.file "b".toList, mode, format⟩)
      ⟨.file "b".toList, mode, format⟩ source' := by
    intro mode format
    exact d.reads_file mode format (by decide) rfl (by decide) .empty
  obtain ⟨-, htokens, hsegments, -, -, hsource⟩ := line_listings_are_faithful
  obtain ⟨hrun, -, htokenLines⟩ := htokens source tokens ht
  obtain ⟨hrun', -, -⟩ := htokens source' tokens ht'
  obtain ⟨hlist, hsegmentLines, -⟩ := hsegments source (segments ' ') hs
  have hprinted : tokensOf "a" = writeListing (tokens.map Token.listingItem) .ndjson :=
    congrArg Outcome.output (hrun _ _ _ (ha .tokens .ndjson) rfl)
  have hprinted' : tokensOf "b" = writeListing (tokens.map Token.listingItem) .ndjson :=
    congrArg Outcome.output (hrun' _ _ _ (hb .tokens .ndjson) rfl)
  have hlisted : segmentsOf "a" = writeListing ((segments ' ').map PlacedSegment.listingItem) .text :=
    congrArg Outcome.output (hlist _ _ _ (ha .segments .text) rfl)
  refine ⟨?_, ?_, ?_, ?_⟩
  · rw [hprinted, htokenLines]
    decide +kernel
  · rw [hlisted, hsegmentLines]
    decide +kernel
  · rw [hprinted, hprinted']
  · intro h
    have hsame : source = source' :=
      hsource _ _ _ _ hs hs' _ _ _ _ _ _ (ha .segments .text) (hb .segments .text) rfl rfl rfl (by decide) h
    exact absurd hsame (by decide)

end Command

end FlowchartLexer
