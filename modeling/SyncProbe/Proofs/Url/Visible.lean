import SyncProbe.Proofs.Text.Visible
import SyncProbe.Proofs.Url.Reading

/-!
# The text of a URL that is read

A URL is read from any text, and a control in that text does not come through: it is passed over,
refused in a domain, or encoded. So the text of the URL has no control, and stays on its line.

Results:
1. `isVisible_encode`: a text that is encoded has no control.
2. `Host.isVisible_text`, `Authority.isVisible_text`, `Path.isVisible_text`: nor have the parts.
3. `IsRead.isVisible_text`: nor has the URL.
-/

namespace SyncProbe

open Json (Visible visible_digit)
open Text (IsVisible isVisible_append isVisible_hexadecimal isVisible_intercalate isVisible_join
  isVisible_numeral isVisible_ofList visible_of_isAlphanum visible_toLower)

namespace Url

/-! ## Encoded parts -/

theorem visible_of_isControl {c : Char} (allowed : isControl c = false) : Visible c := by
  have above := (Bool.or_eq_false_iff.mp allowed).1
  exact Nat.le_of_not_lt (of_decide_eq_false above)

theorem visible_encodeByte (byte : UInt8) : ∀ c ∈ encodeByte byte, Visible c := by
  have upper {value : Nat} (small : value < 16) : Visible (Hex.digit value).toUpper := by
    have all : ∀ value : Fin 16, Visible (Hex.digit value).toUpper := by decide
    exact all ⟨value, small⟩
  have high : byte.toNat / 16 < 16 := Nat.div_lt_of_lt_mul byte.toNat_lt
  intro c inside
  simp only [encodeByte, List.mem_cons, List.not_mem_nil, or_false] at inside
  rcases inside with rfl | rfl | rfl
  · decide
  · exact upper high
  · exact upper (Nat.mod_lt _ (by decide))

/-- A text that is encoded has no control, if the part holds none. -/
theorem isVisible_encode {outside : Char → Bool}
    (controls : ∀ c, outside c = false → isControl c = false) (cs : List Char) :
    IsVisible (String.ofList (encode outside cs)) := by
  rw [isVisible_ofList]
  intro c inside
  obtain ⟨d, _, inside⟩ := List.mem_flatMap.mp inside
  split at inside
  · next kept =>
    rw [List.mem_singleton.mp inside]
    exact visible_of_isControl (controls d (by simpa using (Bool.and_eq_true_iff.mp kept).2))
  · obtain ⟨byte, _, inside⟩ := List.mem_flatMap.mp inside
    exact visible_encodeByte byte c inside

theorem isControl_of_outsideFragment {c : Char} (allowed : outsideFragment c = false) :
    isControl c = false :=
  (Bool.or_eq_false_iff.mp allowed).1

theorem isControl_of_outsidePath {c : Char} (allowed : outsidePath c = false) :
    isControl c = false :=
  isControl_of_outsideFragment (Bool.or_eq_false_iff.mp allowed).1

theorem isControl_of_outsideUserinfo {c : Char} (allowed : outsideUserinfo c = false) :
    isControl c = false :=
  isControl_of_outsidePath (Bool.or_eq_false_iff.mp allowed).1

theorem isControl_of_outsideQuery {special : Bool} {c : Char}
    (allowed : outsideQuery special c = false) : isControl c = false :=
  (Bool.or_eq_false_iff.mp (Bool.or_eq_false_iff.mp allowed).1).1

/-! ## Schemes -/

theorem visible_of_isSchemeChar {c : Char} (belongs : isSchemeChar c = true) : Visible c := by
  simp only [isSchemeChar, Bool.or_eq_true, decide_eq_true_eq] at belongs
  rcases belongs with ((letter | rfl) | rfl) | rfl
  · exact visible_of_isAlphanum letter
  all_goals decide

theorem isVisible_of_splitScheme? {cs rest : List Char} {scheme : String}
    (splits : splitScheme? cs = some (scheme, rest)) : IsVisible scheme := by
  unfold splitScheme? at splits
  simp only at splits
  split at splits
  · split at splits
    · cases splits
      rw [isVisible_ofList]
      intro c inside
      obtain ⟨d, among, rfl⟩ := List.mem_map.mp inside
      have belongs := List.all_eq_true.mp List.all_takeWhile d among
      exact visible_toLower (visible_of_isSchemeChar belongs)
    · cases splits
  · cases splits

end Url

/-! ## Hosts -/

namespace Host

theorem isVisible_ipv4Text (address : UInt32) : IsVisible (ipv4Text address) := by
  simp +decide only [ipv4Text, isVisible_append, isVisible_numeral]

theorem isVisible_piecesText (pieces : List Nat) : IsVisible (piecesText pieces) := by
  refine isVisible_intercalate (by decide) fun text among => ?_
  obtain ⟨piece, _, rfl⟩ := List.mem_map.mp among
  exact isVisible_hexadecimal piece

theorem isVisible_ipv6Text (pieces : List Nat) : IsVisible (ipv6Text pieces) := by
  unfold ipv6Text
  simp only
  split
  · rw [isVisible_append, isVisible_append]
    exact ⟨⟨isVisible_piecesText _, by decide⟩, isVisible_piecesText _⟩
  · exact isVisible_piecesText _

theorem isVisible_bracketed (pieces : List Nat) : IsVisible (Host.ipv6 pieces).text := by
  simp +decide only [text, isVisible_append, isVisible_ipv6Text]

variable [Naming]

theorem isVisible_of_parse {cs : List Char} {host : Host} (parses : parse cs = .ok host) :
    IsVisible host.text := by
  unfold parse at parses
  split at parses
  · obtain ⟨pieces, rfl⟩ := ipv6_of_parseBracketed parses
    exact isVisible_bracketed pieces
  · rcases domain_of_parseName parses with ⟨address, rfl⟩ | ⟨name, _, fits, rfl⟩
    · exact isVisible_ipv4Text address
    · intro c inside
      have ascii := (Bool.or_eq_false_iff.mp (fitsDomain_iff.mp fits c inside)).1
      exact Url.visible_of_isControl (Bool.or_eq_false_iff.mp ascii).2

theorem isVisible_text {host : Host} (reads : host.IsRead) : IsVisible host.text := by
  obtain ⟨cs, parses | parses⟩ := reads
  · exact isVisible_of_parse parses
  · unfold parseAny at parses
    split at parses
    · obtain ⟨pieces, rfl⟩ := ipv6_of_parseBracketed parses
      exact isVisible_bracketed pieces
    · split at parses
      · cases parses
      · cases parses
        exact Url.isVisible_encode (fun _ allowed => allowed) _

end Host

namespace Url

/-! ## Authorities -/

theorem isVisible_of_parseUserinfo {cs : List Char} {username : String} {password : Option String}
    (parses : parseUserinfo cs = (username, password)) :
    IsVisible username ∧ ∀ word ∈ password, IsVisible word := by
  have encoded (cs : List Char) : IsVisible (String.ofList (encode outsideUserinfo cs)) :=
    isVisible_encode (fun _ => isControl_of_outsideUserinfo) cs
  unfold parseUserinfo at parses
  simp only at parses
  split at parses
  · cases parses
    refine ⟨encoded _, ?_⟩
    rintro word ⟨⟩
    exact encoded _
  · cases parses
    exact ⟨encoded _, nofun⟩

section

variable [Naming]

theorem Authority.isVisible_userinfo {authority : Authority} (reads : authority.IsRead) :
    IsVisible authority.userinfo := by
  obtain ⟨cs, parses⟩ := reads.userinfo
  obtain ⟨username, password⟩ := isVisible_of_parseUserinfo parses
  unfold userinfo
  cases present : authority.password with
  | none =>
    simp only
    split
    · decide
    · simp +decide only [isVisible_append, username]
  | some word =>
    simp only
    split
    · decide
    · simp +decide only [isVisible_append, username, password word present]

theorem Authority.isVisible_text {authority : Authority} (reads : authority.IsRead) :
    IsVisible authority.text := by
  unfold text
  simp only
  rw [isVisible_append, isVisible_append]
  refine ⟨⟨isVisible_userinfo reads, ?_⟩, ?_⟩
  · split
    · next host present => exact Host.isVisible_text (reads.host host present)
    · decide
  · split
    · simp +decide only [isVisible_append, isVisible_numeral]
    · decide

end

/-! ## Paths -/

/-- No segment has a control. -/
def AllVisible (segments : List String) : Prop :=
  ∀ segment ∈ segments, IsVisible segment

theorem isVisible_segmentText (file first : Bool) (cs : List Char) :
    IsVisible (segmentText file first cs) := by
  unfold segmentText
  split
  · next drive =>
    have like := (Bool.and_eq_true_iff.mp drive).2
    unfold isDriveLike at like
    split at like
    · next c sign =>
      have letter : c.isAlphanum := Bool.or_eq_true_iff.mpr (.inl (Bool.and_eq_true_iff.mp like).1)
      rw [isVisible_ofList]
      exact List.forall_mem_cons.mpr
        ⟨visible_of_isAlphanum letter, List.forall_mem_singleton.mpr (by decide)⟩
    · cases like
  · exact isVisible_encode (fun _ => isControl_of_outsidePath) cs

theorem allVisible_stepBack {file : Bool} {segments : List String}
    (visible : AllVisible segments) : AllVisible (stepBack file segments) := by
  unfold stepBack
  split
  · split
    · exact visible
    · exact nofun
  · exact fun segment among => visible segment ((List.dropLast_subset segments) among)

theorem allVisible_append {segments : List String} {segment : String}
    (visible : AllVisible segments) (last : IsVisible segment) :
    AllVisible (segments ++ [segment]) :=
  List.forall_mem_append.mpr ⟨visible, List.forall_mem_singleton.mpr last⟩

theorem allVisible_addSegments {file : Bool} {path : List String} (parts : List (List Char))
    (visible : AllVisible path) : AllVisible (addSegments file path parts) := by
  induction parts generalizing path with
  | nil => exact visible
  | cons cs rest ih =>
    -- A dot segment that stands last leaves an empty one.
    have ended {path : List String} (visible : AllVisible path) :
        AllVisible (path ++ if rest.isEmpty then [""] else []) := by
      split
      · exact allVisible_append visible (by decide)
      · rwa [List.append_nil]
    unfold addSegments
    simp only
    split
    · exact ih (ended (allVisible_stepBack visible))
    · split
      · exact ih (ended visible)
      · exact ih (allVisible_append visible (isVisible_segmentText _ _ cs))

theorem allVisible_dropEmpty {segments : List String} (visible : AllVisible segments) :
    AllVisible (dropEmpty segments) := by
  induction segments using dropEmpty.induct with
  | case1 segment rest ih =>
    exact ih fun other among => visible other (List.mem_cons_of_mem _ among)
  | case2 segments other =>
    rw [dropEmpty.eq_2 segments other]
    exact visible

theorem allVisible_parseSegments (scheme : String) (cs : List Char) :
    AllVisible (parseSegments scheme cs) := by
  have added : AllVisible (addSegments (isFile scheme) []
      (splitOn (isSlash (isSpecial scheme)) (dropSlash (isSpecial scheme) cs))) :=
    allVisible_addSegments _ nofun
  unfold parseSegments
  simp only
  split
  · exact allVisible_dropEmpty added
  · exact added

theorem Path.isVisible_text {path : Path} (reads : path.IsRead) : IsVisible path.text := by
  cases reads with
  | missing => decide
  | rootless cs => exact isVisible_encode (fun _ allowed => allowed) cs
  | rooted scheme cs =>
    refine isVisible_join fun text among => ?_
    obtain ⟨segment, inside, rfl⟩ := List.mem_map.mp among
    exact isVisible_append.mpr ⟨by decide, allVisible_parseSegments scheme cs segment inside⟩

/-! ## Whole URLs -/

theorem isVisible_announced {sign : String} {part : Option String} (signed : IsVisible sign)
    (visible : ∀ text ∈ part, IsVisible text) : IsVisible (announced sign part) := by
  cases part with
  | none => exact nofun
  | some text => exact isVisible_append.mpr ⟨signed, visible text rfl⟩

theorem isVisible_guard (url : Url) : IsVisible url.guard := by
  unfold guard
  split <;> decide

/-- The text of a URL that is read has no control. -/
theorem IsRead.isVisible_text [Naming] {url : Url} (reads : url.IsRead) : IsVisible url.text := by
  obtain ⟨cs, rest, splits⟩ := reads.scheme
  have scheme := isVisible_of_splitScheme? splits
  have authority : IsVisible (announced "//" (url.authority.map Authority.text)) := by
    refine isVisible_announced (by decide) fun text present => ?_
    obtain ⟨authority, held, rfl⟩ := Option.map_eq_some_iff.mp present
    exact Authority.isVisible_text (reads.authority authority held)
  have query : IsVisible (announced "?" url.query) := by
    refine isVisible_announced (by decide) fun text present => ?_
    obtain ⟨cs, rfl⟩ := reads.query text present
    exact isVisible_encode (fun _ => isControl_of_outsideQuery) cs
  have fragment : IsVisible (announced "#" url.fragment) := by
    refine isVisible_announced (by decide) fun text present => ?_
    obtain ⟨cs, rfl⟩ := reads.fragment text present
    exact isVisible_encode (fun _ => isControl_of_outsideFragment) cs
  simp +decide only [text, target, isVisible_append, scheme, authority, isVisible_guard,
    Path.isVisible_text reads.path, query, fragment]

end Url

end SyncProbe
