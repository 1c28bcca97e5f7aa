/-
# One text, whichever way its lines end

The lines of a file may end with a line feed, a carriage return, or both.  Two readers look at
the file: one for its examples, one for the names that it exports.  Both see the text with line
feeds, so that neither depends on the line ends, and both refuse the same octets: those that are
no text in UTF-8.

| octets | examples | exports |
| --- | --- | --- |
| of a text, in any style | those of the text | those of the text |
| of no text | none, and one diagnostic | none |
-/

import DocExamples.Proofs.Decoding
import DocExamples.Proofs.Discovery
import DocExamples.Synthesis

namespace DocExamples

/-! ### Line ends -/

/-- A way to end lines. -/
inductive LineEnd where
  /-- A line feed. -/
  | feed
  /-- A carriage return and a line feed. -/
  | returnFeed
  /-- A carriage return. -/
  | carriage
deriving DecidableEq, Repr

/-- The characters that end a line. -/
def LineEnd.text : LineEnd → Text
  | .feed => ['\n']
  | .returnFeed => ['\r', '\n']
  | .carriage => ['\r']

namespace Text

/-- A text with every line feed written as a line end. -/
def withLineEnds (e : LineEnd) (s : Text) : Text :=
  s.flatMap fun c => if c = '\n' then e.text else [c]

theorem withLineEnds_cons (e : LineEnd) (c : Char) (s : Text) :
    withLineEnds e (c :: s) = (if c = '\n' then e.text else [c]) ++ withLineEnds e s :=
  List.flatMap_cons

/-- No line feed is left where lines end with a carriage return alone. -/
theorem lineFeed_notMem_withLineEnds (s : Text) : '\n' ∉ withLineEnds .carriage s := by
  rw [withLineEnds, List.mem_flatMap]
  rintro ⟨c, -, hc⟩
  split at hc
  · exact absurd hc (by decide)
  · next hne => exact hne (List.mem_singleton.1 hc).symm

theorem withLineFeeds_cons {c : Char} (h : c ≠ '\r') (s : Text) :
    withLineFeeds (c :: s) = c :: withLineFeeds s :=
  withLineFeeds.eq_3 c s (fun _ hc _ => h hc) h

/-- A carriage return with no line feed behind it is a line end. -/
theorem withLineFeeds_carriage {s : Text} (h : '\n' ∉ s) :
    withLineFeeds ('\r' :: s) = '\n' :: withLineFeeds s :=
  withLineFeeds.eq_2 s fun _ ht => h (ht ▸ List.mem_cons_self)

/-- **Line ends are read back as line feeds**, whichever they are. -/
theorem withLineFeeds_withLineEnds (e : LineEnd) {s : Text} (h : '\r' ∉ s) :
    withLineFeeds (withLineEnds e s) = s := by
  induction s with
  | nil => rfl
  | cons c s ih =>
    obtain ⟨hc, hs⟩ := not_or.1 (List.mem_cons.not.1 h)
    rw [withLineEnds_cons]
    split
    · next hfeed =>
      subst hfeed
      cases e with
      | feed => rw [LineEnd.text, List.singleton_append, withLineFeeds_cons (Ne.symm hc), ih hs]
      | returnFeed =>
        rw [LineEnd.text, List.cons_append, List.singleton_append, withLineFeeds, ih hs]
      | carriage =>
        rw [LineEnd.text, List.singleton_append,
          withLineFeeds_carriage (lineFeed_notMem_withLineEnds s), ih hs]
    · rw [List.singleton_append, withLineFeeds_cons (Ne.symm hc), ih hs]

end Text

/-! ### Two readers of a file -/

namespace Disk

variable {d : Disk} {p s : Text} {octets : Octets}

/-- The text of a file is what its octets are decoded into, or the fault in them. -/
theorem sourceText_of_content (hnul : '\x00' ∉ p)
    (h : d.content (Path.ofText p).text = .ok octets) :
    d.sourceText (Path.ofText p) = .ok (match Utf8.decode octets with
      | .error f => .error (.encoding f)
      | .ok s => .ok (Text.withLineFeeds s)) := by
  have hpath : '\x00' ∉ (Path.ofText p).text := Path.notMem_text (by decide) (by decide) hnul
  simp only [sourceText, List.contains_iff_mem, hpath, if_false, h]
  cases Utf8.decode octets <;> rfl

theorem sourceText_of_encode (hnul : '\x00' ∉ p)
    (h : d.content (Path.ofText p).text = .ok (Utf8.encode s)) :
    d.sourceText (Path.ofText p) = .ok (.ok (Text.withLineFeeds s)) := by
  rw [sourceText_of_content hnul h, Utf8.decode_eq_ok_iff.2 rfl]

theorem exists_sourceText_eq_error (hnul : '\x00' ∉ p) (hoctets : ∀ s, octets ≠ Utf8.encode s)
    (h : d.content (Path.ofText p).text = .ok octets) :
    ∃ reason, d.sourceText (Path.ofText p) = .ok (.error reason) := by
  rw [sourceText_of_content hnul h]
  cases hdecode : Utf8.decode octets with
  | error f => exact ⟨.encoding f, rfl⟩
  | ok s => exact absurd (Utf8.decode_eq_ok_iff.1 hdecode) (hoctets s)

end Disk

namespace Harvest

/-- Both readers see a file as a text. -/
structure Reads (d : Disk) (p s : Text) : Prop where
  /-- The examples of the file are those of the text, with no diagnostic. -/
  examples : ofFile d p = .ok ⟨Example.ofSource p s, []⟩
  /-- The file exports what the text exports. -/
  exports : Synthesis.exportsOf d p = .ok (Export.names s)

/-- Both readers refuse a file. -/
structure Refuses (d : Disk) (p : Text) : Prop where
  /-- The file has no examples, and one diagnostic. -/
  examples : ∃ reason,
    ofFile d p = .ok ⟨[], ["Failed to parse ".toList ++ p ++ ": ".toList ++ reason]⟩
  /-- The file exports nothing. -/
  exports : Synthesis.exportsOf d p = .ok []

/-- **Both readers see the text of a file, whichever way its lines end, and refuse what is no
text.**  Files are read one by one. -/
theorem readers_agree (d : Disk) :
    (∀ p s e, '\x00' ∉ p → '\r' ∉ s →
      d.content (Path.ofText p).text = .ok (Utf8.encode (Text.withLineEnds e s)) → Reads d p s) ∧
    (∀ p octets, '\x00' ∉ p → (∀ s, octets ≠ Utf8.encode s) →
      d.content (Path.ofText p).text = .ok octets → Refuses d p) ∧
    ∀ ps : List Text, (∀ p ∈ ps, '\x00' ∉ p) →
      ∃ parts, List.Forall₂ (fun p h => ofFile d p = .ok h) ps parts ∧
        ofFiles d ps = .ok ⟨parts.flatMap (·.examples), parts.flatMap (·.errors)⟩ := by
  refine ⟨fun p s e hnul hreturn hcontent => ?_, fun p octets hnul hoctets hcontent => ?_,
    fun ps hnul => ?_⟩
  · have hsource := Disk.sourceText_of_encode hnul hcontent
    rw [Text.withLineFeeds_withLineEnds e hreturn] at hsource
    exact ⟨by rw [ofFile, hsource], by rw [Synthesis.exportsOf, hsource]⟩
  · obtain ⟨reason, hsource⟩ := Disk.exists_sourceText_eq_error hnul hoctets hcontent
    have hfile : ofFile d p = .ok ⟨[], [unreadable p reason]⟩ := by rw [ofFile, hsource]
    exact ⟨⟨reason.message, hfile⟩, by rw [Synthesis.exportsOf, hsource]⟩
  · refine ⟨ps.map (ofOrigin d), ?_, ofFiles_eq_ok hnul⟩
    rw [List.forall₂_map_right_iff, List.forall₂_same]
    exact fun p hp => ofFile_eq_ok (hnul p hp)

/-- A source with an example and an export. -/
def shownOnce : Text :=
  "/**\n * @example\n * ```\n * é();\n * ```\n */\nexport function f() \x7b\x7d\n".toList

/-- A file with lines that end in two characters, and one with a longer form of NUL. -/
def assorted : Disk where
  entries :=
    [(["m.ts".toList], .file (Utf8.encode (Text.withLineEnds .returnFeed shownOnce)) 0o644),
      (["n.ts".toList], .file [0xC0, 0x80] 0o644)]
  cwd := []

theorem readers_agree_assorted :
    ('\x00' ∉ "m.ts".toList ∧ '\r' ∉ shownOnce ∧
      assorted.content (Path.ofText "m.ts".toList).text =
        .ok (Utf8.encode (Text.withLineEnds .returnFeed shownOnce)) ∧
      Reads assorted "m.ts".toList shownOnce) ∧
    ('\x00' ∉ "n.ts".toList ∧ (∀ s, ([0xC0, 0x80] : Octets) ≠ Utf8.encode s) ∧
      assorted.content (Path.ofText "n.ts".toList).text = .ok [0xC0, 0x80] ∧
      Refuses assorted "n.ts".toList) ∧
    (∀ p ∈ ["m.ts".toList, "n.ts".toList], '\x00' ∉ p) ∧
      ∃ parts, List.Forall₂ (fun p h => ofFile assorted p = .ok h)
          ["m.ts".toList, "n.ts".toList] parts ∧
        ofFiles assorted ["m.ts".toList, "n.ts".toList] =
          .ok ⟨parts.flatMap (·.examples), parts.flatMap (·.errors)⟩ := by
  obtain ⟨hreads, hrefuses, hfiles⟩ := readers_agree assorted
  have hnuls : ∀ p ∈ ["m.ts".toList, "n.ts".toList], '\x00' ∉ p := by decide
  have hm : '\x00' ∉ "m.ts".toList := hnuls _ List.mem_cons_self
  have hn : '\x00' ∉ "n.ts".toList := hnuls _ (List.mem_cons_of_mem _ List.mem_cons_self)
  have hreturn : '\r' ∉ shownOnce := by decide
  have htext : assorted.content (Path.ofText "m.ts".toList).text =
      .ok (Utf8.encode (Text.withLineEnds .returnFeed shownOnce)) := by decide
  have hlonger : assorted.content (Path.ofText "n.ts".toList).text = .ok [0xC0, 0x80] := by decide
  have hnone (s : Text) : ([0xC0, 0x80] : Octets) ≠ Utf8.encode s := by
    intro hs
    have hdecode := Utf8.decode_eq_ok_iff.2 hs
    rw [Utf8.decode, Utf8.items_cons] at hdecode
    cases hdecode
  exact ⟨⟨hm, hreturn, htext, hreads _ _ _ hm hreturn htext⟩,
    ⟨hn, hnone, hlonger, hrefuses _ _ hn hnone hlonger⟩, hnuls, hfiles _ hnuls⟩

end Harvest
end DocExamples
