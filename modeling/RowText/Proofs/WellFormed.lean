import RowText.Layout
import RowText.Json.Document
import RowText.RowString.Case
import RowText.RowString.Join
import RowText.Proofs.CodePoints
import RowText.Proofs.Cuts
import RowText.Proofs.SortKey

namespace RowText.RowString

variable {s part : RowString}

@[simp] theorem empty_wellFormed : empty.WellFormed := ofBytes_wellFormed []

@[simp] theorem ofSegment_wellFormed (segment : Segment) : (ofSegment segment).WellFormed := by
  simp [ofSegment, WellFormed]

theorem check_eq_ok_iff {span : Span} :
    span.check = .ok () ↔ span.segments ≠ [] ∧ span.offset + span.length < Word.limit ∧
      span.offset + span.length ≤ totalSize span.segments := by
  unfold Span.check
  cases span.segments with
  | nil => simp [Span.noSegment]
  | cons first rest =>
      constructor
      · intro fits
        exact ⟨nofun, of_checkRange_ok fits⟩
      · rintro ⟨-, isWord, within⟩
        exact checkRange_ok isWord within

theorem view_wellFormed {span : Span} (fits : span.check = .ok ()) :
    (view span none).WellFormed := by
  obtain ⟨nonempty, -, within⟩ := check_eq_ok_iff.mp fits
  exact ⟨nonempty, within, nofun⟩

theorem ofSpan_eq_ok_iff {span : Span} :
    ofSpan span = .ok s ↔ span.check = .ok () ∧ s = view span none := by
  constructor
  · intro made
    obtain ⟨⟨⟩, fits, done⟩ := Checked.bind_eq_ok.mp made
    cases done
    exact ⟨fits, rfl⟩
  · rintro ⟨fits, rfl⟩
    exact Checked.bind_eq_ok.mpr ⟨(), fits, rfl⟩

theorem ofSpan_wellFormed {span : Span} (made : ofSpan span = .ok s) : s.WellFormed := by
  obtain ⟨fits, rfl⟩ := ofSpan_eq_ok_iff.mp made
  exact view_wellFormed fits

theorem blank_wellFormed {length : Nat} (made : blank length = .ok s) : s.WellFormed := by
  obtain ⟨bytes, -, done⟩ := Checked.bind_eq_ok.mp made
  cases done
  exact ofBytes_wellFormed bytes

theorem read?_wellFormed {document : String} (read : read? document = some s) : s.WellFormed := by
  simp only [read?, Option.bind_eq_bind, Option.bind_eq_some_iff, Option.pure_def,
    Option.some.injEq] at read
  obtain ⟨json, -, text, -, rfl⟩ := read
  exact ofText_wellFormed _

theorem decoded_wellFormed (wellFormed : s.WellFormed) : s.decoded.WellFormed := by
  cases s with
  | owned segment decoded =>
      rintro value ⟨⟩
      exact asText_eq wellFormed
  | view span decoded =>
      refine ⟨wellFormed.1, wellFormed.2.1, ?_⟩
      rintro value ⟨⟩
      exact asText_eq wellFormed
  | text value encoded => exact wellFormed

theorem encoded_wellFormed (wellFormed : s.WellFormed) : s.encoded.WellFormed := by
  cases s with
  | owned segment decoded => exact wellFormed
  | view span decoded => exact wellFormed
  | text value encoded =>
      rintro segment ⟨⟩
      exact encodedSegment_bytes wellFormed

theorem CutAt.wellFormed {places : Nat → Prop} (wellFormed : s.WellFormed)
    (cut : CutAt places s part) (within : ∀ place, places place → place ≤ s.content.length) :
    part.WellFormed := by
  obtain ⟨start, stop, ordered, -, last, rfl⟩ := cut
  have inside := within stop last
  rw [sliceBytes_eq]
  split
  · exact empty_wellFormed
  split
  · exact wellFormed
  · cases s with
    | owned segment decoded => exact ofSegment_wellFormed _
    | view span decoded =>
        rw [← length_eq wellFormed] at inside
        change stop ≤ span.length at inside
        obtain ⟨nonempty, fits, -⟩ := wellFormed
        exact ⟨nonempty, by dsimp only; omega, nofun⟩
    | text value encoded => exact ofSegment_wellFormed _

theorem BetweenTokens.le {separator : Option (List UInt8)} {bytes : List UInt8} {place : Nat}
    (between : BetweenTokens separator bytes place) : place ≤ bytes.length := by
  unfold BetweenTokens at between
  split at between
  · exact between.le
  · exact between.le
  · exact between.le

theorem substring_wellFormed (wellFormed : s.WellFormed) (start stop : Nat) :
    (s.substring start stop).WellFormed :=
  (substring_cut s start stop).wellFormed wellFormed fun _ => BetweenChars.le

theorem trimBlank_wellFormed (wellFormed : s.WellFormed) (leading trailing : Bool) :
    (s.trimBlank leading trailing).WellFormed :=
  (trimBlank_cut s leading trailing).wellFormed wellFormed fun _ => NextTo.le

theorem trimWith_wellFormed (wellFormed : s.WellFormed) (leading trailing : Bool)
    (set : RowString) : (s.trimWith leading trailing set).WellFormed :=
  (trimWith_cut s leading trailing set).wellFormed wellFormed fun _ => BetweenChars.le

theorem mapCase_wellFormed (byteMap : UInt8 → UInt8) (textMap : List Char → List Char)
    (s : RowString) : (s.mapCase byteMap textMap).WellFormed := by
  rw [mapCase_eq]
  split
  · exact ofBytes_wellFormed _
  · exact ofText_wellFormed _

theorem join_wellFormed (separator : Option RowString) (parts : List RowString) :
    (join separator parts).WellFormed := by
  cases parts with
  | nil => exact empty_wellFormed
  | cons first rest => exact ofBytes_wellFormed _

theorem concat_wellFormed {parts : List (Option RowString)} (joined : concat parts = some s) :
    s.WellFormed := by
  obtain ⟨present, -, rfl⟩ := Option.map_eq_some_iff.mp joined
  exact join_wellFormed none present

theorem concatWith_wellFormed {separator : Option RowString} {parts : List (Option RowString)}
    (joined : concatWith separator parts = some s) : s.WellFormed := by
  obtain ⟨separator, -, rfl⟩ := Option.map_eq_some_iff.mp joined
  exact join_wellFormed _ _

theorem splitSegments_wellFormed {bytes : List UInt8} {pad : Nat}
    (made : Layout.splitSegments bytes pad = .ok s) : s.WellFormed := by
  obtain ⟨span, -, viewed⟩ := Checked.bind_eq_ok.mp made
  exact ofSpan_wellFormed viewed

theorem build_wellFormed {layout : Layout} {value : String} (made : layout.build value = .ok s) :
    s.WellFormed := by
  cases layout with
  | oneSegment =>
      cases made
      exact ofBytes_wellFormed _
  | twoSegments pad => exact splitSegments_wellFormed made
  | text =>
      cases made
      exact ofText_wellFormed _

theorem viewsFrom_wellFormed {segments : List Segment} {offset : Nat} {values : List (List UInt8)}
    {views : List RowString} (made : Layout.viewsFrom segments offset values = .ok views) :
    ∀ s ∈ views, s.WellFormed := by
  induction values generalizing offset views with
  | nil =>
      cases made
      simp
  | cons value rest ih =>
      obtain ⟨first, viewed, made⟩ := Checked.bind_eq_ok.mp made
      obtain ⟨later, others, done⟩ := Checked.bind_eq_ok.mp made
      cases done
      exact List.forall_mem_cons.mpr ⟨ofSpan_wellFormed viewed, ih others⟩

theorem pack_wellFormed {values : List String} {views : List RowString}
    (made : Layout.pack values = .ok views) : ∀ s ∈ views, s.WellFormed := by
  obtain ⟨buffer, -, made⟩ := Checked.bind_eq_ok.mp made
  obtain ⟨⟨⟩, -, made⟩ := Checked.bind_eq_ok.mp made
  exact viewsFrom_wellFormed made

end RowText.RowString
