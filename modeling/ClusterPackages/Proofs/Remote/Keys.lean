import ClusterPackages.Proofs.Text.Utf8
import ClusterPackages.Proofs.Url.Path
import ClusterPackages.Proofs.Url.Reference
import ClusterPackages.Remote.Store
import Mathlib.Data.List.Flatten

namespace ClusterPackages

open Text Url.Percent

/-!
# Which keys the store over HTTP asks for

The URL of a key is a relative reference, so marks for queries and fragments, points, escapes and
backslashes in a key have a meaning there.

* `Remote.keyPath` — the path of a key; every key without a slash at its front has one
  (`Remote.exists_keyUrl?`).
* `Remote.Literal` — keys in which nothing has a meaning.
* `Remote.pathBytes_keyPath_iff` — the path of a key stands for the key exactly if the key is
  literal: a path never stands for more bytes than its key has, and all else makes it lose some.
* `Remote.store_keys_iff` — the same of what the store asks for.
-/

namespace Url

/-! ### Segments below the store -/

/-- The segments of a reference below `v1/kv/` are these two and those of the rest. -/
theorem cutSegments_below (special : Bool) (cs : List Char) :
    cutSegments special ("v1/kv/".toList ++ cs) = "v1" :: "kv" :: cutSegments special cs := by
  show cutSegments special ('v' :: '1' :: '/' :: 'k' :: 'v' :: '/' :: cs) = _
  cases special <;>
    simp [cutSegments, List.splitOnP_cons_eq_if_modifyHead, isSlash] <;> decide

/-- Below the store, segments that are no points are put after one another. -/
theorem tidy_walk_below (file : Bool) {segments : List String}
    (h : ∀ s ∈ segments, isPoint s = false) :
    tidy file (walk file [] ("v1" :: "kv" :: segments)) = "v1" :: "kv" :: segments := by
  have hdots : isDotDot "v1" = false := by decide
  have hdot : isDot "v1" = false := by decide
  have hrooted : rooted file [] "v1" = "v1" := by cases file <;> decide
  have hrest : ∀ s ∈ "kv" :: segments, isPoint s = false := by
    intro s hs
    rcases List.mem_cons.1 hs with rfl | hs
    · decide
    · exact h s hs
  rw [walk, hdots, hdot, hrooted, if_neg (by simp), if_neg (by simp),
    walk_of_plain file (by simp) hrest]
  simp [tidy]

end Url

namespace Remote

open Url Http

/-! ### URLs of keys -/

/-- The segments that the characters of a key lead to. -/
def keyPath (scheme : String) (key : List Char) : List String :=
  tidy (isFile scheme) (walk (isFile scheme) []
    ("v1" :: "kv" :: cutSegments (isSpecial scheme) (kept key)))

/-- Below a host, the path of a reference that starts with no slash is its own. -/
theorem exists_relative? {base : Url} (hbase : base.path = .segments [""]) (t : Cut)
    (r : List Char) : ∃ u, relative? base t ('v' :: '1' :: r) = some u ∧
      u.path = extendPath base.scheme [] ('v' :: '1' :: r) := by
  by_cases hfile : isFile base.scheme = true
  · have hname : base.scheme = "file" := by simpa [isFile] using hfile
    have hpath : (ofFilePath (some base) ('v' :: '1' :: r)).path =
        extendPath "file" [] ('v' :: '1' :: r) := by
      simp [ofFilePath, ofFile, Path.list, hbase, isSlash, startsWithDrive, isDrive, shorten]
    refine ⟨withEnd t (ofFilePath (some base) ('v' :: '1' :: r)), ?_, ?_⟩
    · simp [relative?, hbase, hfile, ofFileFront?, isSlash]
    · rw [hname]
      exact hpath
  · refine ⟨withEnd t { base with path := extendPath base.scheme [] ('v' :: '1' :: r) }, ?_, rfl⟩
    simp [relative?, hbase, hfile, isSlash]

/-- Below a host, every key without a slash at its front has a URL. -/
theorem exists_keyUrl? {base : Url} {key : String} (hbase : base.path = .segments [""])
    (hkey : startsWith "/" key = false) :
    ∃ u, keyUrl? base key = some u ∧ u.path = .segments (keyPath base.scheme key.toList) := by
  have hplain : ∀ c ∈ "v1/kv/".toList, Stays c := by
    simp [Stays]
  have hdrop : dropLeading '/' key = key := by
    have hhead : key.toList.dropWhile (· == '/') = key.toList := by
      cases hchars : key.toList with
      | nil => rfl
      | cons c r =>
        have hc : '/' ≠ c := by simpa [startsWith, stripPrefixChars?, hchars] using hkey
        exact List.dropWhile_cons_of_neg (by simpa using hc.symm)
    rw [dropLeading, hhead, String.ofList_toList]
  have htext : "v1/kv/" ++ key = String.ofList ("v1/kv/".toList ++ key.toList) := by
    rw [String.ofList_append, String.ofList_toList, String.ofList_toList]
  have hfront := front_cut "v1/kv/".toList (by decide) hplain key.toList
  have hscheme : scheme? ("v1/kv/".toList ++ kept key.toList) = none := rfl
  obtain ⟨u, hu, hpath⟩ := exists_relative? hbase
    (cut (String.ofList ("v1/kv/".toList ++ key.toList))) ("/kv/".toList ++ kept key.toList)
  refine ⟨u, ?_, ?_⟩
  · rw [keyUrl?, hdrop, htext, resolve?, read?, hfront, hscheme]
    exact hu
  · rw [keyPath, ← cutSegments_below]
    exact hpath

/-! ### Literal keys -/

/-- A key in which nothing has a meaning as a part of a reference. -/
structure Literal (special : Bool) (key : String) : Prop where
  /-- There are no tabs, line breaks, number signs and question marks. -/
  marks : ∀ c ∈ key.toList, isMark c = false
  /-- The last character is neither a blank nor a control. -/
  last : ∀ c, key.toList.getLast? = some c → 0x20 < c.toNat
  /-- Where backslashes separate segments, there are none. -/
  slashes : special = true → '\\' ∉ key.toList
  /-- No percent sign has two hexadecimal digits after it. -/
  escapes : Unescaped key.toList
  /-- No segment is one or two points. -/
  points : ∀ s ∈ segments '/' key, s ≠ "." ∧ s ≠ ".."

/-- The path of a URL after `/v1/kv/` stands for a key. -/
def NamesKey (u : Url) (key : String) : Prop :=
  ∃ part, u.path.toText = "/v1/kv/" ++ part ∧ decode part = Utf8.encode key

/-- What stands below `/v1/kv/` is decoded on its own. -/
theorem decode_below (part : String) :
    decode ("/v1/kv/" ++ part) = Utf8.encode "/v1/kv/" ++ decode part := by
  have hchars : ("/v1/kv/" ++ part).toList = "/v1/kv".toList ++ '/' :: part.toList := by
    simp
  rw [decode, hchars, decodeChars_append (by decide), decodeChars_slash]
  rfl

variable {special : Bool} {key : String}

/-- Without a meaning for escapes and backslashes, the points of a key are written as points. -/
theorem points_iff (hslashed : key.toList.map (slashed special) = key.toList)
    (hescapes : Unescaped key.toList) :
    (∀ s ∈ cutSegments special key.toList, isPoint s = false) ↔
      ∀ s ∈ segments '/' key, s ≠ "." ∧ s ≠ ".." := by
  have hsplit : ∀ {P : String → Prop}, (∀ s ∈ cutSegments special key.toList, P s) ↔
      ∀ cs ∈ key.toList.splitOn '/', P (encode inPath cs) := by
    intro P
    rw [cutSegments, splitOnP_isSlash hslashed, List.forall_mem_map]
  rw [hsplit, segments, List.forall_mem_map]
  refine forall₂_congr fun cs hcs => ?_
  constructor
  · intro hpoint
    constructor
    · intro hdot
      rw [← String.toList_ofList (l := cs), hdot] at hpoint
      cases hpoint
    · intro hdots
      rw [← String.toList_ofList (l := cs), hdots] at hpoint
      cases hpoint
  · rintro ⟨hdot, hdots⟩
    -- What counts as points stands for points, and a segment of the key stands for itself.
    have hplain : Unescaped cs := by
      have hinfix := infix_of_mem_splitOnP hslashed
        (by rwa [splitOnP_isSlash hslashed] : cs ∈ key.toList.splitOnP (isSlash special))
      have hall : Unescaped ('/' :: key.toList) :=
        unescaped_cons.2 ⟨not_escapes_of_ne (by decide) _, hescapes⟩
      have hsegment : Unescaped ('/' :: cs) :=
        fun a b ha hb hin => hall a b ha hb (hin.trans hinfix)
      exact (unescaped_cons.1 hsegment).2
    have hbytes : decode (encode inPath cs) = Utf8.encode (String.ofList cs) := by
      rw [decode_encode_inPath, decodeChars_of_unescaped hplain, Utf8.encode, String.toList_ofList]
    refine Bool.or_eq_false_iff.2 ⟨?_, ?_⟩
    · apply Bool.eq_false_iff.2
      intro h
      exact hdot (Utf8.encode_inj (hbytes.symm.trans (decode_of_isDot h)))
    · apply Bool.eq_false_iff.2
      intro h
      exact hdots (Utf8.encode_inj (hbytes.symm.trans (decode_of_isDotDot h)))

section

variable (h : Literal special key)

include h

/-- No character of a literal key is taken off. -/
theorem Literal.kept_eq : kept key.toList = key.toList := kept_eq_iff.2 ⟨h.marks, h.last⟩

theorem Literal.slashed_eq : key.toList.map (slashed special) = key.toList :=
  map_slashed_eq_iff.2 h.slashes

/-- No segment of a literal key is taken for a step in the hierarchy. -/
theorem Literal.isPoint_eq : ∀ s ∈ cutSegments special (kept key.toList), isPoint s = false := by
  rw [h.kept_eq]
  exact (points_iff h.slashed_eq h.escapes).2 h.points

end

/-- Without segments of points, the path is made of the bytes that the characters stand for. -/
theorem keyPath_of_plain {scheme : String} {cs : List Char}
    (h : ∀ s ∈ cutSegments (isSpecial scheme) (kept cs), isPoint s = false) :
    pathBytes (keyPath scheme cs) =
      Utf8.encode "/v1/kv/" ++ decodeChars ((kept cs).map (slashed (isSpecial scheme))) := by
  rw [keyPath, tidy_walk_below _ h, pathBytes_cons, pathBytes_cons, pathBytes_cutSegments]
  rfl

/-- The path of a key stands for no more than the key, and for less if there was a point. -/
theorem length_keyPath_le (scheme : String) (cs : List Char) :
    (pathBytes (keyPath scheme cs)).length +
        ((cutSegments (isSpecial scheme) (kept cs)).any isPoint).toNat ≤
      7 + (decodeChars ((kept cs).map (slashed (isSpecial scheme)))).length := by
  have htidy := length_tidy_le (isFile scheme) (walk (isFile scheme) []
    ("v1" :: "kv" :: cutSegments (isSpecial scheme) (kept cs)))
  have hwalk := length_walk_le (isFile scheme)
    ("v1" :: "kv" :: cutSegments (isSpecial scheme) (kept cs)) []
  have hv : isPoint "v1" = false := by decide
  have hk : isPoint "kv" = false := by decide
  have hv' : (decode "v1").length = 2 := by decide
  have hk' : (decode "kv").length = 2 := by decide
  rw [List.any_cons, List.any_cons, hv, hk, Bool.false_or, Bool.false_or, pathBytes_cons,
    pathBytes_cons, pathBytes_cutSegments, pathBytes_nil] at hwalk
  simp only [List.length_append, List.length_cons, List.length_nil, hv', hk'] at hwalk
  rw [keyPath]
  omega

/-- **The path of a key stands for the key exactly if the key is literal.** Whatever has a meaning
    in a reference makes the path stand for less. -/
theorem pathBytes_keyPath_iff (scheme : String) (key : String) :
    pathBytes (keyPath scheme key.toList) = Utf8.encode "/v1/kv/" ++ Utf8.encode key ↔
      Literal (isSpecial scheme) key := by
  constructor
  · intro hbytes
    have hlength := length_keyPath_le scheme key.toList
    have hdecode := length_decodeChars_le ((kept key.toList).map (slashed (isSpecial scheme)))
    have hkept := ((kept_sublist key.toList).flatMap Utf8.encodeChar).length_le
    have hkey : (Utf8.encode key).length = (key.toList.flatMap Utf8.encodeChar).length := rfl
    have hstart : (Utf8.encode "/v1/kv/").length = 7 := rfl
    rw [length_slashed] at hdecode
    rw [hbytes, List.length_append] at hlength
    -- Nothing was left out, so everything is kept, nothing is an escape and there are no points.
    have hall : kept key.toList = key.toList := by
      apply Utf8.flatMap_encodeChar_inj
      exact ((kept_sublist key.toList).flatMap Utf8.encodeChar).eq_of_length (by omega)
    rw [hall] at hlength hdecode
    have hunescaped : Unescaped (key.toList.map (slashed (isSpecial scheme))) := by
      apply unescaped_of_length
      rw [length_slashed]
      omega
    have hpoints : ∀ s ∈ cutSegments (isSpecial scheme) key.toList, isPoint s = false := by
      have hany : (cutSegments (isSpecial scheme) key.toList).any isPoint = false := by
        apply Bool.toNat_eq_zero.1
        omega
      simpa using hany
    have hslashed : key.toList.map (slashed (isSpecial scheme)) = key.toList := by
      rw [keyPath_of_plain (by rwa [hall]), hall, decodeChars_of_unescaped hunescaped] at hbytes
      exact Utf8.flatMap_encodeChar_inj (List.append_cancel_left hbytes)
    rw [hslashed] at hunescaped
    obtain ⟨hmarks, hend⟩ := kept_eq_iff.1 hall
    exact ⟨hmarks, hend, map_slashed_eq_iff.1 hslashed, hunescaped,
      (points_iff hslashed hunescaped).1 hpoints⟩
  · intro h
    rw [keyPath_of_plain h.isPoint_eq, h.kept_eq, h.slashed_eq, decodeChars_of_unescaped h.escapes]
    rfl

/-- The path that a key leads to stands for this key exactly if the key is literal. -/
theorem namesKey_iff {u : Url} {scheme : String}
    (hpath : u.path = .segments (keyPath scheme key.toList)) :
    NamesKey u key ↔ Literal (isSpecial scheme) key := by
  rw [← pathBytes_keyPath_iff, ← decode_toText, ← hpath]
  constructor
  · rintro ⟨part, htext, hpart⟩
    rw [htext, decode_below, hpart]
  · intro hbytes
    have hliteral := hbytes
    rw [hpath, decode_toText, pathBytes_keyPath_iff] at hliteral
    obtain ⟨first, others, hcut⟩ : ∃ first others,
        cutSegments (isSpecial scheme) (kept key.toList) = first :: others := by
      apply List.exists_cons_of_ne_nil
      simp [cutSegments, List.splitOnP_ne_nil]
    have htext : u.path.toText = "/v1/kv/" ++ (first ++ concat (others.map ("/" ++ ·))) := by
      rw [hpath, keyPath, tidy_walk_below _ hliteral.isPoint_eq, hcut]
      apply String.toList_inj.1
      simp [Path.toText, concat]
    refine ⟨_, htext, ?_⟩
    rw [htext, decode_below] at hbytes
    exact List.append_cancel_left hbytes

/-! ### What the store asks for -/

/-- Whatever the transport, the action is one request with this method for this path, and then does
    what follows from the answer. -/
def AsksOnce {σ α : Type} (method : Method) (path : Url.Path) (act : Transport σ → Action σ α) :
    Prop :=
  ∃ (r : Http.Request) (next : Option Reply → Action σ α),
    r.method = method ∧ r.url.path = path ∧ ∀ t, act t = t r >>= next

theorem method_ofUrl (u : Url) (method : Method) (accept : String)
    (user : Option (String × String)) (payload : Payload) :
    (Http.Request.ofUrl u method accept user payload).method = method := by
  unfold Http.Request.ofUrl
  split <;> rfl

theorem path_ofUrl (u : Url) (method : Method) (accept : String) (user : Option (String × String))
    (payload : Payload) :
    (Http.Request.ofUrl u method accept user payload).url.path = u.path := by
  unfold Http.Request.ofUrl
  split <;> rfl

/-- Fields are added to the query only. -/
theorem path_withFields (fields : List (String × String)) (u : Url) :
    (fields.foldl (fun u (name, value) => u.withField name value) u).path = u.path := by
  induction fields generalizing u with
  | nil => rfl
  | cons field rest ih =>
    rw [List.foldl_cons, ih]
    rfl

/-- A call about a key asks for the path of its URL, whatever is done with the answer. -/
theorem asksOnce_askStore {σ α : Type} {base u : Url} {c : Call}
    (h : keyUrl? base c.context = some u) (method : Method) (fields : List (String × String))
    (body : Bytes) (f : Reply → Except Error α) :
    AsksOnce method u.path fun t : Transport σ =>
      askStore t base c method fields body >>= fun reply => Action.ofExcept (f reply) := by
  refine ⟨.ofUrl (fields.foldl (fun u (name, value) => u.withField name value) u) method "*/*" none
    ⟨none, body⟩, fun answer => answer.elim (Action.fail (c.error .unreachable)) fun reply =>
      Action.ofExcept (f reply), method_ofUrl .., ?_, fun t => ?_⟩
  · rw [path_ofUrl, path_withFields]
  · simp only [askStore, h, bind_assoc]
    apply bind_congr
    intro answer
    cases answer with
    | none => rfl
    | some reply => exact pure_bind reply _

/-- **What the store asks for.** Below a host, reading, setting and removing a key are each one
    request for the path of its URL.  What stands there after `/v1/kv/` stands for the key exactly
    if the key is literal, and different literal keys have different paths. -/
theorem store_keys_iff {base : Url} {key : String} (hbase : base.path = .segments [""])
    (hkey : startsWith "/" key = false) :
    ∃ u, keyUrl? base key = some u ∧
      (NamesKey u key ↔ Literal (isSpecial base.scheme) key) ∧
      (∀ σ : Type, AsksOnce .get u.path (fun t : Transport σ => (store t base).get key) ∧
        (∀ value, AsksOnce .put u.path fun t : Transport σ => (store t base).put key value) ∧
        AsksOnce .delete u.path fun t : Transport σ => (store t base).delete key) ∧
      ∀ (key' : String) (u' : Url), startsWith "/" key' = false → keyUrl? base key' = some u' →
        Literal (isSpecial base.scheme) key → Literal (isSpecial base.scheme) key' → key ≠ key' →
        decode u.path.toText ≠ decode u'.path.toText := by
  obtain ⟨u, hu, hpath⟩ := exists_keyUrl? hbase hkey
  refine ⟨u, hu, namesKey_iff hpath, fun σ => ⟨?_, fun value => ?_, ?_⟩, ?_⟩
  · exact asksOnce_askStore (c := .get key) hu .get [("raw", "")] [] (found? (.get key))
  · exact asksOnce_askStore (c := .put key) hu .put [] value (succeeded (.put key))
  · exact asksOnce_askStore (c := .delete key) hu .delete [] [] (succeeded (.delete key))
  · intro key' u' hkey' hu' hliteral hliteral' hne hsame
    obtain ⟨v, hv, hpath'⟩ := exists_keyUrl? hbase hkey'
    obtain rfl := Option.some.inj (hv.symm.trans hu')
    rw [hpath, hpath', decode_toText, decode_toText, (pathBytes_keyPath_iff _ _).2 hliteral,
      (pathBytes_keyPath_iff _ _).2 hliteral'] at hsame
    exact hne (Utf8.encode_inj (List.append_cancel_left hsame))

/-- The address of an agent on the local host. -/
def localAgent : Url :=
  ⟨"http", "", "", some (.named "localhost"), some 8500, .segments [""], none, none⟩

/-- Blanks inside a key and characters beyond ASCII are fine. -/
theorem store_keys_iff_spaced : ∃ u, keyUrl? localAgent "repo/größe 50%/1.0" = some u ∧
    NamesKey u "repo/größe 50%/1.0" := by
  have hmarks : "repo/größe 50%/1.0".toList.all (!isMark ·) = true := by decide
  have hliteral : Literal (isSpecial localAgent.scheme) "repo/größe 50%/1.0" := by
    refine ⟨fun c hc => ?_, ?_, by decide +kernel, unescaped_of_length (by decide +kernel),
      by decide +kernel⟩
    · simpa using List.all_eq_true.1 hmarks c hc
    · rintro c ⟨⟩
      decide
  obtain ⟨u, hu, hnames, -⟩ := @store_keys_iff localAgent "repo/größe 50%/1.0" rfl (by decide)
  exact ⟨u, hu, hnames.2 hliteral⟩

/-- A question mark ends the path, so that two keys share one. -/
theorem not_store_keys :
    (¬ ∀ (base : Url) (key : String), base.path = .segments [""] → startsWith "/" key = false →
      ∃ u, keyUrl? base key = some u ∧ NamesKey u key) ∧
    (keyUrl? localAgent "a?b").map (·.path) = (keyUrl? localAgent "a").map (·.path) := by
  have hpath : (keyUrl? localAgent "a?b").map (·.path) = some (.segments ["v1", "kv", "a"]) := by
    decide +kernel
  refine ⟨fun hall => ?_, by decide +kernel⟩
  obtain ⟨u, hu, part, htext, hpart⟩ := hall localAgent "a?b" rfl (by decide)
  rw [hu, Option.map_some, Option.some.injEq] at hpath
  rw [hpath] at htext
  have hbytes : decode (Path.toText (.segments ["v1", "kv", "a"])) ≠
      Utf8.encode "/v1/kv/" ++ Utf8.encode "a?b" := by
    decide +kernel
  apply hbytes
  rw [htext, decode_below, hpart]

end Remote

end ClusterPackages
