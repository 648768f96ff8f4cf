import Tagging.Proofs.Url.Form
import Tagging.Url.Parser

/-!
# What URLs are made of

A URL that was read is written so that its first question mark begins its query and its first number
sign its fragment: each part is written without the characters that would end it.

* `Unmarked` — text that no query or fragment begins in;
* `mem_percentEncode` — what is left of text when it is encoded;
* `Written` — **a URL with its marks in their places**;
* `written_of_ofText` — every URL that is read from a text is one.
-/

namespace Tagging.Url

/-! ## Text without marks -/

/-- No query or fragment begins in the text. -/
def Unmarked (cs : List Char) : Prop := ∀ c ∈ cs, endsPath c = false

namespace Unmarked

variable {c : Char} {cs ds : List Char}

theorem nil : Unmarked [] := List.forall_mem_nil _

theorem cons (hc : endsPath c = false) (h : Unmarked cs) : Unmarked (c :: cs) :=
  List.forall_mem_cons.2 ⟨hc, h⟩

theorem append (hc : Unmarked cs) (hd : Unmarked ds) : Unmarked (cs ++ ds) :=
  List.forall_mem_append.2 ⟨hc, hd⟩

end Unmarked

/-- The marks are the question mark and the number sign. -/
theorem unmarked_iff {cs : List Char} : Unmarked cs ↔ '?' ∉ cs ∧ '#' ∉ cs := by
  constructor
  · intro h
    constructor
    · intro hmem
      exact absurd (h _ hmem) (by decide)
    · intro hmem
      exact absurd (h _ hmem) (by decide)
  · rintro ⟨hquestion, hnumber⟩ c hc
    have hne : c ≠ '?' := by
      rintro rfl
      exact hquestion hc
    have hne' : c ≠ '#' := by
      rintro rfl
      exact hnumber hc
    simp [endsPath, hne, hne']

/-- Text without forbidden characters holds no mark where both marks are forbidden. -/
theorem unmarked_of_any {cs : List Char} {forbidden : Char → Bool}
    (h : ¬ cs.any forbidden = true) (hquestion : forbidden '?' = true)
    (hnumber : forbidden '#' = true) : Unmarked cs := by
  have hnot : ∀ c, forbidden c = true → c ∉ cs := by
    intro c hc hmem
    exact h (List.any_eq_true.2 ⟨c, hmem, hc⟩)
  exact unmarked_iff.2 ⟨hnot _ hquestion, hnot _ hnumber⟩

/-! ## Encoded text -/

/-- **What is left of text when it is encoded**: what stands in written values of a form, and the
characters that need not be encoded. -/
theorem mem_percentEncode {set : Char → Bool} {cs : List Char} {c : Char}
    (h : c ∈ percentEncode set cs) : isFormWritten c = true ∨
      c ∈ cs ∧ (c.toNat < 0x20 || 0x7E < c.toNat || set c) = false := by
  obtain ⟨d, hd, hmem⟩ := List.mem_flatMap.1 h
  split_ifs at hmem with hencoded
  · left
    rcases isFormSafe_of_mem_percentChar hmem with hsafe | rfl
    · rw [isFormWritten, hsafe]
      rfl
    · rfl
  · obtain rfl := List.mem_singleton.1 hmem
    exact .inr ⟨hd, by simpa using hencoded⟩

/-- A character of the set is not left. -/
theorem not_mem_percentEncode {set : Char → Bool} {c : Char}
    (hencoded : (c.toNat < 0x20 || 0x7E < c.toNat || set c) = true)
    (hwritten : isFormWritten c = false) (cs : List Char) : c ∉ percentEncode set cs := by
  intro hmem
  rcases mem_percentEncode hmem with hsafe | ⟨-, hleft⟩
  · rw [hsafe] at hwritten
    cases hwritten
  · rw [hencoded] at hleft
    cases hleft

theorem unmarked_percentEncode {set : Char → Bool} (hquestion : set '?' = true)
    (hnumber : set '#' = true) (cs : List Char) : Unmarked (percentEncode set cs) :=
  unmarked_iff.2 ⟨not_mem_percentEncode (by rw [hquestion]; rfl) (by decide) cs,
    not_mem_percentEncode (by rw [hnumber]; rfl) (by decide) cs⟩

/-- Encoding brings in no marks. -/
theorem Unmarked.percentEncode {cs : List Char} (h : Unmarked cs) (set : Char → Bool) :
    Unmarked (percentEncode set cs) := by
  have hnot : ∀ c, isFormWritten c = false → c ∉ cs → c ∉ Url.percentEncode set cs := by
    intro c hwritten hc hmem
    rcases mem_percentEncode hmem with hsafe | ⟨hleft, -⟩
    · rw [hsafe] at hwritten
      cases hwritten
    · exact hc hleft
  obtain ⟨hquestion, hnumber⟩ := unmarked_iff.1 h
  exact unmarked_iff.2 ⟨hnot _ (by decide) hquestion, hnot _ (by decide) hnumber⟩

/-! ## Numbers -/

theorem endsPath_digitChar : ∀ d < 16, endsPath (Nat.digitChar d) = false := by decide

theorem unmarked_toDigits {b : Nat} (hb : 1 < b) (hb' : b ≤ 16) (n : Nat) :
    Unmarked (Nat.toDigits b n) := by
  induction n using Nat.strongRecOn with
  | ind n ih =>
    rw [Nat.toDigits_eq_if hb]
    split_ifs with hlt
    · exact .cons (endsPath_digitChar n (by omega)) .nil
    · have hmod : n % b < b := Nat.mod_lt _ (by omega)
      have hsmaller : n / b < n := Nat.div_lt_self (by omega) hb
      exact (ih _ hsmaller).append (.cons (endsPath_digitChar _ (by omega)) .nil)

/-! ## Schemes -/

/-- Only what is a letter comes out of lower case as one. -/
theorem eq_of_toLower_eq {c x : Char} (hx : x.toNat < 65) (h : c.toLower = x) : c = x := by
  unfold Char.toLower at h
  split at h
  · rename_i hupper
    exfalso
    obtain ⟨hlow, hhigh⟩ := hupper
    rw [ge_iff_le, UInt32.le_iff_toNat_le] at hlow
    rw [UInt32.le_iff_toNat_le] at hhigh
    have hval : (c.val + ('a'.val - 'A'.val)).toNat = x.toNat := congrArg Char.toNat h
    rw [UInt32.toNat_add] at hval
    change 65 ≤ c.val.toNat at hlow
    change c.val.toNat ≤ 90 at hhigh
    change (c.val.toNat + 32) % _ = _ at hval
    omega
  · exact h

theorem unmarked_of_readScheme {cs scheme rest : List Char}
    (h : readScheme cs = some (scheme, rest)) : Unmarked scheme := by
  have hlower : Unmarked ((cs.takeWhile isSchemeChar).map Char.toLower) := by
    have hnot : ∀ x : Char, x.toNat < 65 → isSchemeChar x = false →
        x ∉ (cs.takeWhile isSchemeChar).map Char.toLower := by
      intro x hx hout hmem
      obtain ⟨c, hc, hsame⟩ := List.mem_map.1 hmem
      rw [eq_of_toLower_eq hx hsame] at hc
      have hin := List.mem_takeWhile_imp hc
      rw [hout] at hin
      cases hin
    exact unmarked_iff.2 ⟨hnot _ (by decide) (by decide), hnot _ (by decide) (by decide)⟩
  unfold readScheme at h
  split at h
  · split_ifs at h
    split at h
    · cases h
      exact hlower
    · cases h
  · cases h

/-! ## Hosts -/

theorem unmarked_ipv4Text (address : Nat) : Unmarked (Host.ipv4Text address) := by
  have hbyte : ∀ n, Unmarked (Nat.toDigits 10 n) := unmarked_toDigits (by decide) (by decide)
  have hpoint : endsPath '.' = false := by decide
  refine ((((hbyte _).append (.cons hpoint (hbyte _))).append (.cons hpoint ?_))).append
    (.cons hpoint (hbyte _))
  exact hbyte _

theorem unmarked_partsText (parts : List Nat) : Unmarked (Host.partsText parts) := by
  have hpart : ∀ n, Unmarked (Nat.toDigits 16 n) := unmarked_toDigits (by decide) (by decide)
  induction parts with
  | nil => exact .nil
  | cons p rest ih =>
    cases rest with
    | nil => exact hpart p
    | cons q rest => exact (hpart p).append (.cons (by decide) ih)

theorem unmarked_ipv6Text (parts : List Nat) : Unmarked (Host.ipv6Text parts) := by
  unfold Host.ipv6Text
  simp only
  split_ifs
  · exact unmarked_partsText parts
  · exact (unmarked_partsText _).append
      (.cons (by decide) (.cons (by decide) (unmarked_partsText _)))

/-- A domain holds no mark. -/
theorem unmarked_of_domainToAscii {bytes : List UInt8} {name : List Char}
    (h : domainToAscii bytes = some name) : Unmarked name := by
  unfold domainToAscii at h
  split at h
  · cases h
  simp only at h
  split at h
  · cases h
  split_ifs at h with hforbidden
  cases h
  exact unmarked_of_any hforbidden (by decide) (by decide)

theorem unmarked_of_bracketed {cs : List Char} {host : Host} (h : bracketed cs = .ok host) :
    Unmarked host.text := by
  unfold bracketed at h
  split_ifs at h
  split at h
  · cases h
    exact .cons (by decide) ((unmarked_ipv6Text _).append (.cons (by decide) .nil))
  · cases h

theorem unmarked_of_hostOfText {cs : List Char} {host : Host} (h : hostOfText cs = .ok host) :
    Unmarked host.text := by
  unfold hostOfText at h
  split at h
  · exact unmarked_of_bracketed h
  split at h
  · cases h
  · cases h
  rename_i hname
  split_ifs at h
  · split at h
    · cases h
      exact unmarked_ipv4Text _
    · cases h
  · cases h
    exact unmarked_of_domainToAscii hname

theorem unmarked_of_hostOfPlainText {cs : List Char} {host : Host}
    (h : hostOfPlainText cs = .ok host) : Unmarked host.text := by
  unfold hostOfPlainText at h
  split at h
  · exact unmarked_of_bracketed h
  split_ifs at h with hforbidden
  cases h
  have hplain : Unmarked cs := unmarked_of_any hforbidden (by decide) (by decide)
  exact hplain.percentEncode controlSet

/-! ## Authorities -/

theorem unmarked_readUserinfo (cs : List Char) :
    Unmarked (readUserinfo cs).1 ∧ ∀ password, (readUserinfo cs).2 = some password →
      Unmarked password := by
  have hencode : ∀ ds, Unmarked (percentEncode userinfoSet ds) :=
    unmarked_percentEncode (by decide) (by decide)
  unfold readUserinfo
  simp only
  split
  · refine ⟨hencode _, ?_⟩
    intro password h
    cases h
    exact hencode _
  · refine ⟨hencode _, ?_⟩
    intro password h
    cases h

/-- The host of a text that may be empty. -/
def hostOrNone (special : Bool) (text : List Char) : Except UrlError (Option Host) :=
  if text.isEmpty then .ok none
  else if special then (hostOfText text).map some
  else (hostOfPlainText text).map some

theorem unmarked_of_hostOrNone {special : Bool} {text : List Char} {host : Host}
    (h : hostOrNone special text = .ok (some host)) : Unmarked host.text := by
  have hmap : ∀ {x : Except UrlError Host}, x.map some = .ok (some host) → x = .ok host := by
    intro x hx
    cases x with
    | error e => cases hx
    | ok y => cases hx; rfl
  unfold hostOrNone at h
  split_ifs at h
  · cases h
  · exact unmarked_of_hostOfText (hmap h)
  · exact unmarked_of_hostOfPlainText (hmap h)

section Authorities

variable {scheme cs rest : List Char} {special : Bool}

/-- The host stands before the port. -/
theorem hostOrNone_of_readHostAndPort {host : Option Host} {port : Option Nat}
    (h : readHostAndPort scheme special cs = .ok (host, port, rest)) :
    hostOrNone special (takeHost special false cs).1 = .ok host := by
  unfold readHostAndPort at h
  simp only [bind, Except.bind, pure, Except.pure, throw, throwThe, MonadExceptOf.throw] at h
  unfold hostOrNone
  split_ifs at h ⊢
  · split at h
    · split at h <;> cases h
      rfl
    · cases h
      rfl
  all_goals
    split at h
    · cases h
    rename_i hhost
    rw [hhost]
    split at h
    · split at h <;> cases h
      rfl
    · cases h
      rfl

/-- The name and the password before the host, and the host behind them. -/
theorem parts_of_readAuthority {a : Authority}
    (h : readAuthority scheme special cs = .ok (a, rest)) :
    (a.username = [] ∧ a.password = none ∨
      ∃ info, a.username = (readUserinfo info).1 ∧ a.password = (readUserinfo info).2) ∧
    ∃ text, readHostAndPort scheme special text = .ok (a.host, a.port, rest) := by
  unfold readAuthority at h
  simp only [bind, Except.bind, pure, Except.pure, throw, throwThe, MonadExceptOf.throw] at h
  split at h
  · split at h
    · cases h
    rename_i hhost
    split_ifs at h
    cases h
    exact ⟨.inl ⟨rfl, rfl⟩, _, hhost⟩
  · split_ifs at h
    split at h
    · cases h
    rename_i hhost
    split_ifs at h
    cases h
    exact ⟨.inl ⟨rfl, rfl⟩, _, hhost⟩
  · split at h
    · cases h
    rename_i hhost
    split_ifs at h
    cases h
    exact ⟨.inr ⟨_, rfl, rfl⟩, _, hhost⟩

theorem unmarked_at : Unmarked ['@'] := .cons (by decide) .nil

/-- **An authority that is read** holds no mark. -/
theorem unmarked_of_readAuthority {a : Authority}
    (h : readAuthority scheme special cs = .ok (a, rest)) : Unmarked a.text := by
  obtain ⟨hinfo, text, hhost⟩ := parts_of_readAuthority h
  have hcredentials : Unmarked a.username ∧ ∀ password, a.password = some password →
      Unmarked password := by
    rcases hinfo with ⟨husername, hpassword⟩ | ⟨info, husername, hpassword⟩
    · rw [husername, hpassword]
      refine ⟨.nil, ?_⟩
      intro password heq
      cases heq
    · rw [husername, hpassword]
      exact unmarked_readUserinfo info
  have hhost := hostOrNone_of_readHostAndPort hhost
  obtain ⟨username, password, host, port⟩ := a
  simp only at hhost hcredentials
  refine (Unmarked.append ?_ ?_).append ?_
  · obtain ⟨husername, hpassword⟩ := hcredentials
    unfold Authority.credentials
    cases password with
    | none =>
      simp only
      split_ifs
      · exact .nil
      · exact husername.append unmarked_at
    | some password =>
      exact (husername.append (.cons (by decide) (hpassword password rfl))).append unmarked_at
  · cases host with
    | none => exact .nil
    | some host => exact unmarked_of_hostOrNone hhost
  · cases port with
    | none => exact .nil
    | some port => exact .cons (by decide) (unmarked_toDigits (by decide) (by decide) port)

end Authorities

/-! ## Paths -/

/-- A path whose parts hold no marks. -/
def Clean : UrlPath → Prop
  | .segments parts => ∀ p ∈ parts, Unmarked p
  | .plain text => Unmarked text

theorem unmarked_segmentsText {parts : List (List Char)} (h : ∀ p ∈ parts, Unmarked p) :
    Unmarked (segmentsText parts) := by
  intro c hc
  obtain ⟨p, hp, hmem⟩ := List.mem_flatMap.1 hc
  exact Unmarked.cons (by decide) (h p hp) c hmem

theorem unmarked_driveSegment (file : Bool) (done : List (List Char)) {segment : List Char}
    (h : Unmarked segment) : Unmarked (driveSegment file done segment) := by
  unfold driveSegment
  split
  · rename_i c
    split_ifs
    · exact .cons (h c (List.mem_cons_self ..)) (.cons (by decide) .nil)
    · exact h
  · exact h

theorem mem_of_mem_dropSegment {file : Bool} {done : List (List Char)} {p : List Char}
    (h : p ∈ dropSegment file done) : p ∈ done := by
  unfold dropSegment at h
  split at h
  · split_ifs at h
    · exact h
    · cases h
  · exact (List.dropLast_sublist _).subset h

/-- **Working out the dots** of a path brings in no marks: the segments are encoded one by one. -/
theorem unmarked_normalSegments {file : Bool} {done : List (List Char)}
    (h : ∀ p ∈ done, Unmarked p) (parts : List (List Char)) :
    ∀ p ∈ normalSegments file done parts, Unmarked p := by
  have hmore : ∀ {ps : List (List Char)} {q : List Char}, (∀ p ∈ ps, Unmarked p) → Unmarked q →
      ∀ p ∈ ps ++ [q], Unmarked p := by
    intro ps q hps hq
    exact List.forall_mem_append.2 ⟨hps, List.forall_mem_singleton.2 hq⟩
  induction parts generalizing done with
  | nil => exact h
  | cons segment rest ih =>
    rw [normalSegments]
    have hshorter : ∀ p ∈ dropSegment file done, Unmarked p :=
      fun p hp => h p (mem_of_mem_dropSegment hp)
    split_ifs
    · exact ih (hmore hshorter .nil)
    · exact ih hshorter
    · exact ih (hmore h .nil)
    · exact ih h
    · exact ih (hmore h
        (unmarked_driveSegment _ _ (unmarked_percentEncode (by decide) (by decide) _)))

theorem mem_of_mem_withoutEmptyFront {parts : List (List Char)} {p : List Char}
    (h : p ∈ withoutEmptyFront parts) : p ∈ parts := by
  fun_induction withoutEmptyFront parts with
  | case1 q rest ih => exact List.mem_cons_of_mem _ (ih h)
  | case2 parts => exact h

theorem unmarked_readPath (kind : SchemeKind) (cs : List Char) :
    ∀ p ∈ readPath kind cs, Unmarked p := by
  intro p hp
  unfold readPath at hp
  simp only at hp
  split_ifs at hp
  · exact unmarked_normalSegments (List.forall_mem_nil _) _ p (mem_of_mem_withoutEmptyFront hp)
  · exact unmarked_normalSegments (List.forall_mem_nil _) _ p hp

theorem clean_readPath (kind : SchemeKind) (cs : List Char) :
    Clean (.segments (readPath kind cs)) := unmarked_readPath kind cs

/-! ## Whole URLs -/

/-- A URL with its marks in their places: none in front of the query, and no number sign in it.
And a well-known scheme has an authority. -/
structure Written (u : Url) : Prop where
  /-- The scheme holds no mark. -/
  scheme : Unmarked u.scheme
  /-- What follows two slashes holds none. -/
  authority : ∀ a, u.authority = some a → Unmarked a.text
  /-- The path holds none. -/
  path : Clean u.path
  /-- The query holds no number sign, no tab and no carriage return. -/
  query : ∀ q, u.query = some q → '#' ∉ q ∧ '\t' ∉ q ∧ '\r' ∉ q
  /-- What a well-known scheme has. -/
  special : schemeKind u.scheme = .special → u.authority.isSome = true

/-- **What stands before the query** holds no mark. -/
theorem Written.front {u : Url} (h : Written u) : Unmarked u.front := by
  have hpath : Unmarked u.pathText := by
    have hclean := h.path
    unfold pathText
    cases hpath : u.path with
    | plain text =>
      rw [hpath] at hclean
      exact hclean
    | segments parts =>
      rw [hpath] at hclean
      simp only
      split
      · exact .cons (by decide) (.cons (by decide) (unmarked_segmentsText hclean))
      · exact unmarked_segmentsText hclean
  refine (h.scheme.append (.cons (by decide) ?_)).append hpath
  cases hauthority : u.authority with
  | none => exact .nil
  | some a => exact .cons (by decide) (.cons (by decide) (h.authority a hauthority))

/-- Queries are encoded. -/
theorem query_of_readTail {special : Bool} {cs q : List Char}
    (h : (readTail special cs).1 = some q) : '#' ∉ q ∧ '\t' ∉ q ∧ '\r' ∉ q := by
  unfold readTail at h
  simp only at h
  split at h
  · cases h
    have hnumber : (if special then specialQuerySet else querySet) '#' = true := by
      cases special <;> rfl
    exact ⟨not_mem_percentEncode (by rw [hnumber]; rfl) (by decide) _,
      not_mem_percentEncode rfl (by decide) _, not_mem_percentEncode rfl (by decide) _⟩
  · cases h

/-- What is assembled of clean parts is written with its marks in their places. -/
theorem written_assemble {scheme : List Char} {authority : Option Authority}
    {path : List Char → UrlPath} (hscheme : Unmarked scheme)
    (hauthority : ∀ a, authority = some a → Unmarked a.text)
    (hpath : ∀ cs, Unmarked cs → Clean (path cs))
    (hspecial : schemeKind scheme = .special → authority.isSome = true) (rest : List Char) :
    Written (assemble scheme authority path rest) := by
  refine ⟨hscheme, hauthority, hpath _ ?_, fun q hq => query_of_readTail hq, hspecial⟩
  intro c hc
  simpa using List.mem_takeWhile_imp hc

theorem unmarked_of_fileHost {cs : List Char} {host : Host} (h : fileHost cs = .ok (some host)) :
    Unmarked host.text := by
  unfold fileHost at h
  simp only [bind, Except.bind, pure, Except.pure] at h
  split_ifs at h
  · cases h
  split at h
  · cases h
  rename_i x hhost
  have hx : (if x = .domain "localhost".toList then none else some x) = some host :=
    Except.ok.inj h
  split_ifs at hx
  cases hx
  exact unmarked_of_hostOfText hhost

/-- The authority of a file is its host. -/
theorem unmarked_of_host {host : Option Host} (h : ∀ x, host = some x → Unmarked x.text) :
    Unmarked (Authority.text ⟨[], none, host, none⟩) := by
  cases host with
  | none => exact .nil
  | some x => exact (Unmarked.nil.append (h x rfl)).append .nil

theorem written_of_readFile {scheme cs : List Char} {u : Url} (hscheme : Unmarked scheme)
    (hkind : schemeKind scheme = .file) (h : readFile scheme cs = .ok u) : Written u := by
  have hall : ∀ {host : Option Host}, (∀ x, host = some x → Unmarked x.text) → ∀ rest,
      Written (assemble scheme (some ⟨[], none, host, none⟩)
        (fun cs => .segments (readPath .file cs)) rest) := by
    intro host hhost rest
    refine written_assemble hscheme ?_ (fun cs _ => clean_readPath .file cs) ?_ rest
    · intro a ha
      cases ha
      exact unmarked_of_host hhost
    · intro hspecial
      rw [hkind] at hspecial
      cases hspecial
  have hnone : ∀ x, (none : Option Host) = some x → Unmarked x.text := by
    intro x hx
    cases hx
  unfold readFile at h
  simp only [bind, Except.bind, pure, Except.pure] at h
  split at h
  · split_ifs at h
    · cases h
      exact hall hnone _
    · split at h
      · cases h
      rename_i host hhost
      have hread : ∀ x, host = some x → Unmarked x.text :=
        fun x hx => unmarked_of_fileHost (hx ▸ hhost)
      have hu := Except.ok.inj h
      split_ifs at hu
      · -- the drive of the path takes the place of the host
        subst hu
        have hurl := hall hnone (List.dropWhile (fun c => !endsAuthority true c) ‹List Char›)
        exact ⟨hurl.scheme, hurl.authority, hurl.path, hurl.query, hurl.special⟩
      · subst hu
        exact hall hread _
    · cases h
      exact hall hnone _
  · cases h
    exact hall hnone _

theorem written_of_readOther {scheme cs : List Char} {u : Url} (hscheme : Unmarked scheme)
    (hkind : schemeKind scheme = .other) (h : readOther scheme cs = .ok u) : Written u := by
  have hall : ∀ {authority : Option Authority} {path : List Char → UrlPath},
      (∀ a, authority = some a → Unmarked a.text) → (∀ cs, Unmarked cs → Clean (path cs)) →
      ∀ rest, Written (assemble scheme authority path rest) := by
    intro authority path hauthority hpath rest
    refine written_assemble hscheme hauthority hpath ?_ rest
    intro hspecial
    rw [hkind] at hspecial
    cases hspecial
  have hnone : ∀ a, (none : Option Authority) = some a → Unmarked a.text := by
    intro a ha
    cases ha
  unfold readOther at h
  simp only [bind, Except.bind, pure, Except.pure] at h
  split at h
  · split at h
    · cases h
    rename_i x hread
    cases h
    refine hall ?_ ?_ _
    · intro a ha
      cases ha
      exact unmarked_of_readAuthority hread
    · intro cs _
      split_ifs
      · exact List.forall_mem_nil _
      · exact unmarked_readPath .other cs
  · cases h
    exact hall hnone (fun cs _ => clean_readPath .other cs) _
  · cases h
    have hplain : ∀ cs, Unmarked cs → Clean (.plain (percentEncode controlSet cs)) :=
      fun cs hcs => hcs.percentEncode controlSet
    exact hall hnone hplain _

/-- **Every URL that is read** is written with its marks in their places. -/
theorem written_of_ofText {s : String} {u : Url} (h : ofText s = .ok u) : Written u := by
  unfold ofText at h
  split at h
  case h_2 => cases h
  rename_i scheme rest hread
  have hscheme := unmarked_of_readScheme hread
  unfold readRest at h
  split at h
  · rename_i hkind
    exact written_of_readFile hscheme hkind h
  · simp only [bind, Except.bind, pure, Except.pure] at h
    split at h
    · cases h
    rename_i x hread
    cases h
    refine written_assemble hscheme ?_ (fun cs _ => clean_readPath .special cs)
      (fun _ => rfl) _
    intro a ha
    cases ha
    exact unmarked_of_readAuthority hread
  · rename_i hkind
    exact written_of_readOther hscheme hkind h

end Tagging.Url
