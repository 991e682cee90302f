import RowText.RowString.Case
import RowText.RowString.Inspect
import RowText.RowString.Numeric
import RowText.Json.Document
import RowText.Proofs.Cuts
import RowText.Proofs.Join
import RowText.Proofs.Order
import RowText.Proofs.Slices
import RowText.Proofs.SortKey

/-!
# Results depend on contents alone

Two strings are alike if they hold the same bytes, in whatever forms, over whatever segments and
with whatever kept at hand. Operations whose operands are alike yield the same numbers, texts,
orders, absences and faults, and strings of the same content (`results_of_alike`).

The operations are grouped by their operands: `ReadsAlike` for one string, `MeetsAlike` for two,
`PartsAlike` for a string and an optional one, and `JoinsAlike` for lists with gaps.
-/

namespace RowText.RowString

structure Alike (a b : RowString) : Prop where
  left : a.WellFormed
  right : b.WellFormed
  content : a.content = b.content

/-- What can be seen of one string. Only the name of the form tells the inspections apart. -/
structure ReadsAlike (a b : RowString) : Prop where
  length : a.length = b.length
  isEmpty : a.isEmpty = b.isEmpty
  numChars : a.numChars = b.numChars
  byteAt : ∀ index, a.byteAt index = b.byteAt index
  bytes : a.bytes = b.bytes
  copyInto : ∀ target, a.copyInto target = b.copyInto target
  deepCopy : a.deepCopy.content = b.deepCopy.content
  asText : a.asText = b.asText
  decoded : a.decoded.content = b.decoded.content
  encoded : a.encoded.content = b.encoded.content
  write : a.write = b.write
  inspection : ∃ front back, a.inspection = front ++ Unicode.quote a.form ++ back ∧
    b.inspection = front ++ Unicode.quote b.form ++ back
  substring : ∀ start stop, (a.substring start stop).content = (b.substring start stop).content
  substringSql : ∀ position length,
    (a.substringSql position length).map (Option.map RowString.content) =
      (b.substringSql position length).map (Option.map RowString.content)
  trimBlank : ∀ leading trailing,
    (a.trimBlank leading trailing).content = (b.trimBlank leading trailing).content
  reverse : a.reverse.content = b.reverse.content
  upper : a.upper.content = b.upper.content
  lower : a.lower.content = b.lower.content
  equalsText : ∀ value, a.equalsText value = b.equalsText value
  hashFeed : a.hashFeed = b.hashFeed
  toInteger : ∀ width, a.toInteger width = b.toInteger width
  toBoolean : a.toBoolean = b.toBoolean
  toFloat : ∀ format, a.toFloat format = b.toFloat format
  castDecimal : ∀ type, a.castDecimal type = b.castDecimal type
  putKey : ∀ (target : Buffer) (offset width : Nat),
    target.putKey a offset width = target.putKey b offset width

structure MeetsAlike (a b c d : RowString) : Prop where
  compareTo : a.compareTo c = b.compareTo d
  partialCompareTo : a.partialCompareTo c = b.partialCompareTo d
  equals : a.equals c = b.equals d
  contains : a.contains c = b.contains d
  startsWith : a.startsWith c = b.startsWith d
  endsWith : a.endsWith c = b.endsWith d
  indexOf : ∀ start, a.indexOf c start = b.indexOf d start
  trimWith : ∀ leading trailing,
    (a.trimWith leading trailing c).content = (b.trimWith leading trailing d).content

structure PartsAlike (a b : RowString) (x y : Option RowString) : Prop where
  split : (a.split x).map content = (b.split y).map content
  keyValue : ∀ entryEnd keyEnd,
    (a.keyValue entryEnd keyEnd x).map content = (b.keyValue entryEnd keyEnd y).map content

structure JoinsAlike (x y : Option RowString) (ps qs : List (Option RowString)) : Prop where
  concat : (RowString.concat ps).map content = (RowString.concat qs).map content
  concatWith : (RowString.concatWith x ps).map content = (RowString.concatWith y qs).map content
  sort : (RowString.sort (ps.filterMap id)).map content =
    (RowString.sort (qs.filterMap id)).map content

/-! ## One string -/

section

variable {a b c d : RowString}

theorem bytes_alike (alike : Alike a b) : a.bytes = b.bytes := by
  rw [bytes_eq, bytes_eq, alike.content]

theorem length_alike (alike : Alike a b) : a.length = b.length := by
  rw [length_eq alike.left, length_eq alike.right, alike.content]

theorem isEmpty_alike (alike : Alike a b) : a.isEmpty = b.isEmpty := by
  rw [RowString.isEmpty, RowString.isEmpty, length_alike alike]

theorem numChars_alike (alike : Alike a b) : a.numChars = b.numChars := by
  rw [numChars_eq, numChars_eq, alike.content]

theorem asText_alike (alike : Alike a b) : a.asText = b.asText := by
  rw [asText_eq alike.left, asText_eq alike.right, alike.content]

theorem piece_alike (alike : Alike a b) {range : Option (Nat × Nat)}
    (within : ∀ start stop, range = some (start, stop) → stop ≤ b.content.length) :
    (a.piece range).content = (b.piece range).content := by
  cases range with
  | none => rfl
  | some range =>
      have inside := within range.1 range.2 rfl
      rw [piece, piece, sliceBytes_content alike.right inside,
        sliceBytes_content alike.left (alike.content ▸ inside), alike.content]

theorem substringRange?_alike (alike : Alike a b) (start stop : Nat) :
    a.substringRange? start stop = b.substringRange? start stop := by
  rw [substringRange?, substringRange?, length_alike alike, bytes_alike alike]

theorem windowRange?_alike (alike : Alike a b) (position : Int) (length : Option Nat) :
    a.windowRange? position length = b.windowRange? position length := by
  simp only [windowRange?, isEmpty_alike alike, numChars_alike alike, substringRange?_alike alike]

theorem substring_alike (alike : Alike a b) (start stop : Nat) :
    (a.substring start stop).content = (b.substring start stop).content := by
  rw [substring, substring, substringRange?_alike alike]
  exact piece_alike alike fun _ _ found => (substringRange?_cut found).2.2.le

theorem window_alike (alike : Alike a b) (position : Int) (length : Option Nat) :
    (a.window position length).map content = (b.window position length).map content := by
  rw [RowString.window, RowString.window, windowRange?_alike alike]
  cases found : b.windowRange? position length with
  | error fault => rfl
  | ok range =>
      refine congrArg Except.ok (piece_alike alike ?_)
      rintro start stop rfl
      exact (windowRange?_cut found).2.2.le

theorem substringSql_alike (alike : Alike a b) (position : Int) (length : Option Int) :
    (a.substringSql position length).map (Option.map content) =
      (b.substringSql position length).map (Option.map content) := by
  have windows (limit : Option Nat) : (some <$> a.window position limit).map (Option.map content) =
      (some <$> b.window position limit).map (Option.map content) := by
    have same := window_alike alike position limit
    cases left : a.window position limit <;> cases right : b.window position limit
    all_goals simp_all [Except.map]
  cases length with
  | none => exact windows none
  | some length =>
      unfold substringSql
      by_cases negative : length < 0
      · simp only [negative, if_true]
      · simp only [negative, if_false]
        exact windows _

theorem trimBlank_alike (alike : Alike a b) (leading trailing : Bool) :
    (a.trimBlank leading trailing).content = (b.trimBlank leading trailing).content := by
  rw [trimBlank_content alike.left, trimBlank_content alike.right, alike.content]

theorem inspectionText_eq (form value : String) :
    inspectionText form value = "BinaryString \x7b form: " ++ Unicode.quote form ++
      (", value: " ++ Unicode.quote value ++ " \x7d") := by
  unfold inspectionText
  simp only [String.append_assoc]
  rfl

theorem mapCase_alike (alike : Alike a b) (byteMap : UInt8 → UInt8)
    (textMap : List Char → List Char) : a.mapCase byteMap textMap = b.mapCase byteMap textMap := by
  rw [mapCase_eq, mapCase_eq, isAscii, isAscii, bytes_alike alike, asText_alike alike]

theorem reads_alike (alike : Alike a b) : ReadsAlike a b where
  length := length_alike alike
  isEmpty := isEmpty_alike alike
  numChars := numChars_alike alike
  byteAt index := by rw [byteAt_eq alike.left, byteAt_eq alike.right, alike.content]
  bytes := bytes_alike alike
  copyInto target := by rw [copyInto_eq, copyInto_eq, alike.content]
  deepCopy := by rw [deepCopy, deepCopy, bytes_alike alike]
  asText := asText_alike alike
  decoded := by simp [alike.content]
  encoded := by simp [alike.content]
  write := by rw [write_eq, write_eq, asText_alike alike]
  inspection := by
    rw [inspection_eq, inspection_eq, bytes_alike alike]
    exact ⟨_, _, inspectionText_eq .., inspectionText_eq ..⟩
  substring := substring_alike alike
  substringSql := substringSql_alike alike
  trimBlank := trimBlank_alike alike
  reverse := by rw [reverse_content alike.left, reverse_content alike.right, alike.content]
  upper := by rw [upper_eq, upper_eq, mapCase_alike alike]
  lower := by rw [lower_eq, lower_eq, mapCase_alike alike]
  equalsText value := by rw [equalsText, equalsText, length_alike alike, bytes_alike alike]
  hashFeed := by rw [hashFeed_eq, hashFeed_eq, alike.content]
  toInteger width := by rw [toInteger, toInteger, bytes_alike alike]
  toBoolean := by
    rw [toBoolean, toBoolean, trim, trim, bytes_eq, bytes_eq, trimBlank_alike alike]
  toFloat format := by
    rw [toFloat, toFloat, trim, trim, bytes_eq, bytes_eq, trimBlank_alike alike]
  castDecimal type := by rw [castDecimal, castDecimal, bytes_alike alike]
  putKey target offset width := by
    rw [Buffer.putKey_eq _ alike.left, Buffer.putKey_eq _ alike.right, alike.content]

/-! ## Several strings -/

theorem meets_alike (receivers : Alike a b) (arguments : Alike c d) : MeetsAlike a b c d where
  compareTo := by
    rw [compareTo_content receivers.left arguments.left,
      compareTo_content receivers.right arguments.right, receivers.content, arguments.content]
  partialCompareTo := by
    rw [partialCompareTo, partialCompareTo, compareTo_content receivers.left arguments.left,
      compareTo_content receivers.right arguments.right, receivers.content, arguments.content]
  equals := by
    rw [Bool.eq_iff_iff, equals_iff receivers.left arguments.left,
      equals_iff receivers.right arguments.right, receivers.content, arguments.content]
  contains := by
    rw [contains, contains, isEmpty_alike arguments, bytes_alike arguments, bytes_alike receivers]
  startsWith := by
    rw [startsWith, startsWith, length_alike arguments, length_alike receivers,
      bytes_alike arguments, bytes_alike receivers]
  endsWith := by
    rw [endsWith, endsWith, length_alike arguments, length_alike receivers, bytes_alike arguments,
      bytes_alike receivers]
  indexOf start := by
    rw [indexOf, indexOf, bytes_alike receivers, isEmpty_alike arguments, bytes_alike arguments]
  trimWith leading trailing := by
    rw [trimWith_content receivers.left, trimWith_content receivers.right, receivers.content,
      arguments.content]

theorem map_content_alike {x y : Option RowString} (alike : Option.Rel Alike x y) :
    x.map content = y.map content := by
  cases alike with
  | some alike => exact congrArg some alike.content
  | none => rfl

theorem parts_alike (receivers : Alike a b) {x y : Option RowString}
    (arguments : Option.Rel Alike x y) : PartsAlike a b x y where
  split := by
    rw [split_content receivers.left, split_content receivers.right, receivers.content,
      map_content_alike arguments]
  keyValue entryEnd keyEnd := by
    have kept : (∀ k ∈ x, k.WellFormed) ∧ ∀ k ∈ y, k.WellFormed := by
      cases arguments with
      | some alike => exact ⟨fun k member => by cases member; exact alike.left,
          fun k member => by cases member; exact alike.right⟩
      | none => exact ⟨nofun, nofun⟩
    rw [keyValue_content receivers.left kept.1, keyValue_content receivers.right kept.2,
      receivers.content, map_content_alike arguments]

/-! ## Lists of strings -/

theorem contents_alike {ps qs : List (Option RowString)}
    (alike : List.Forall₂ (Option.Rel Alike) ps qs) :
    ps.map (Option.map content) = qs.map (Option.map content) := by
  induction alike with
  | nil => rfl
  | cons head _ ih => rw [List.map_cons, List.map_cons, map_content_alike head, ih]

theorem present_alike {ps qs : List (Option RowString)}
    (alike : List.Forall₂ (Option.Rel Alike) ps qs) :
    List.Forall₂ Alike (ps.filterMap id) (qs.filterMap id) := by
  induction alike with
  | nil => exact .nil
  | cons head _ ih =>
      cases head with
      | some alike => exact .cons alike ih
      | none => exact ih

theorem sort_alike {as bs : List RowString} (alike : List.Forall₂ Alike as bs) :
    (sort as).map content = (sort bs).map content := by
  have fine : (∀ s ∈ as, s.WellFormed) ∧ (∀ s ∈ bs, s.WellFormed) ∧
      as.map content = bs.map content := by
    induction alike with
    | nil => exact ⟨nofun, nofun, rfl⟩
    | cons head _ ih =>
        refine ⟨List.forall_mem_cons.mpr ⟨head.left, ih.1⟩,
          List.forall_mem_cons.mpr ⟨head.right, ih.2.1⟩, ?_⟩
        rw [List.map_cons, List.map_cons, head.content, ih.2.2]
  rw [sort_content fine.1, sort_content fine.2.1, fine.2.2]

theorem joins_alike {x y : Option RowString} {ps qs : List (Option RowString)}
    (separators : Option.Rel Alike x y) (parts : List.Forall₂ (Option.Rel Alike) ps qs) :
    JoinsAlike x y ps qs where
  concat := by rw [concat_content, concat_content, contents_alike parts]
  concatWith := by
    rw [concatWith_content, concatWith_content, map_content_alike separators, contents_alike parts]
  sort := sort_alike (present_alike parts)

end

/-- Operations on operands that are alike yield results that are. -/
theorem results_of_alike :
    (∀ a b : RowString, Alike a b → ReadsAlike a b) ∧
    (∀ a b c d : RowString, Alike a b → Alike c d → MeetsAlike a b c d) ∧
    (∀ (a b : RowString) (x y : Option RowString), Alike a b → Option.Rel Alike x y →
      PartsAlike a b x y) ∧
    ∀ (x y : Option RowString) (ps qs : List (Option RowString)), Option.Rel Alike x y →
      List.Forall₂ (Option.Rel Alike) ps qs → JoinsAlike x y ps qs :=
  ⟨fun _ _ => reads_alike, fun _ _ _ _ => meets_alike, fun _ _ _ _ alike => parts_alike alike,
    fun _ _ _ _ => joins_alike⟩

theorem results_of_alike_straddling :
    Alike straddling (ofText "1.5") ∧
      straddling.castDecimal ⟨3, 1⟩ = (ofText "1.5").castDecimal ⟨3, 1⟩ ∧
      straddling.compareTo (ofText "1.5") = (ofText "1.5").compareTo straddling ∧
      (straddling.split none).map content = ((ofText "1.5").split none).map content ∧
      (concatWith (some straddling) [none, some straddling]).map content =
        (concatWith (some (ofText "1.5")) [none, some (ofText "1.5")]).map content := by
  have alike : Alike straddling (ofText "1.5") :=
    ⟨straddling_wellFormed, ofText_wellFormed _, by decide⟩
  have swapped : Alike (ofText "1.5") straddling :=
    ⟨alike.right, alike.left, alike.content.symm⟩
  have ⟨reads, meets, parts, joins⟩ := results_of_alike
  exact ⟨alike, (reads _ _ alike).castDecimal _, (meets _ _ _ _ alike swapped).compareTo,
    (parts _ _ none none alike .none).split,
    (joins _ _ _ _ (.some alike) (.cons .none (.cons (.some alike) .nil))).concatWith⟩

end RowText.RowString
