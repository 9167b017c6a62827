import Mathlib.Data.List.TakeDrop
import WebAuthn.Proofs.Idna.PlainName
import WebAuthn.Proofs.Text.Base64Url
import WebAuthn.Proofs.Url.HostText
import WebAuthn.Url.Basic

/-!
# URLs of plain hosts

* `Host.ofDomain?_plain` — a name of plain labels is the host that it says, if it is not an address;
* `Url.port?_toString` — a port is read from its digits;
* `Url.parse?_origin` — the secure origin of a plain host is read as this host and its port.
-/

namespace WebAuthn

/-! ### Hosts -/

namespace Host

theorem percentDecode_of_not_mem {bytes : Bytes} (h : (0x25 : UInt8) ∉ bytes) : percentDecode bytes = bytes := by
  induction bytes using percentDecode.induct with
  | case1 => rfl
  | case2 b => rfl
  | case3 b c => rfl
  | case4 high low rest => exact absurd List.mem_cons_self h
  | case5 high low rest => exact absurd List.mem_cons_self h
  | case6 b rest hnil hone hescape ih =>
    rw [percentDecode, ih fun hmem => h (List.mem_cons_of_mem _ hmem)]
    · exact hnil
    · exact hone
    · exact hescape

theorem percent_not_mem_encode {name : List Char} (h : ∀ c ∈ name, Unicode.isPlain c.toNat = true) :
    (0x25 : UInt8) ∉ Utf8.encode (String.ofList name) := by
  rw [Utf8.encode_ofList]
  intro hmem
  obtain ⟨c, hc, hbyte⟩ := List.mem_flatMap.1 hmem
  have hplain := h c hc
  have hle : c.val.toNat ≤ 122 := Unicode.le_of_isPlain hplain
  unfold String.utf8EncodeChar at hbyte
  simp only [if_pos (show c.val.toNat ≤ 127 by omega), List.mem_singleton] at hbyte
  have hcode : c.toNat = 0x25 := by
    have hnat := congrArg UInt8.toNat hbyte
    rw [UInt8.toNat_ofNat', Nat.mod_eq_of_lt (by omega)] at hnat
    exact hnat.symm
  rw [hcode] at hplain
  cases hplain

/-- A name of plain labels is the host that it says, if it is not an address. -/
theorem ofDomain?_plain {name : List Char} (h : ∀ label ∈ Fields.split '.' name, Idna.IsPlainLabel label)
    (hne : name ≠ []) (hnumber : Ipv4.endsInNumber name = false) :
    ofDomain? name = some (.domain (String.ofList name)) := by
  have hplain : ∀ c ∈ name, Unicode.isPlain c.toNat = true := fun c hc => Idna.isPlain_of_mem h hc
  have hhead : name.head? ≠ some '[' := by
    intro hbracket
    exact absurd (hplain '[' (List.mem_of_head? hbracket)) (by decide)
  have hdecoded : Utf8.decode? (percentDecode (Utf8.encode (String.ofList name))) = some (String.ofList name) := by
    rw [percentDecode_of_not_mem (percent_not_mem_encode hplain)]
    exact Utf8.decode?_eq_some_iff.2 rfl
  unfold ofDomain?
  rw [if_neg hhead, hdecoded, Option.bind_eq_bind, Option.bind_some, String.toList_ofList,
    Idna.toAscii?_plain h, Option.bind_eq_bind, Option.bind_some, hnumber]
  cases name with
  | nil => exact absurd rfl hne
  | cons c rest => rfl

end Host

/-! ### Ports -/

namespace Radix

theorem digitValue?_of_isDigit {c : Char} (h : c.isDigit = true) :
    digitValue? 10 c = some (c.toNat - '0'.toNat) := by
  have hbounds : 48 ≤ c.toNat ∧ c.toNat ≤ 57 := Char.isDigit_iff_toNat.1 h
  unfold digitValue?
  simp only [if_pos hbounds]
  exact if_pos (by omega)

/-- The digits of a number spell it. -/
theorem ofDigits?_toDigits (n : Nat) : ofDigits? 10 (Nat.toDigits 10 n) = some n := by
  have hfold : ∀ (digits : List Char) (front : Nat), (∀ c ∈ digits, c.isDigit = true) →
      digits.foldlM (fun n c => (digitValue? 10 c).map (10 * n + ·)) front =
        some (Nat.ofDigitChars 10 digits front) := by
    intro digits
    induction digits with
    | nil => exact fun _ _ => rfl
    | cons c rest ih =>
      intro front h
      obtain ⟨hc, hrest⟩ := List.forall_mem_cons.1 h
      rw [List.foldlM_cons, digitValue?_of_isDigit hc, Nat.ofDigitChars_cons]
      exact ih _ hrest
  unfold ofDigits?
  rw [hfold _ 0 fun c hc => Nat.isDigit_of_mem_toDigits (by decide) (Nat.le_refl 10) hc,
    Nat.ofDigitChars_ten_toDigits]

end Radix

namespace Url

open Idna (hostMarks)

/-- What stands behind a host for its port. -/
def portText : Option Nat → List Char
  | none => []
  | some port => ':' :: (toString port).toList

theorem port?_toString {port : Nat} (h : port < 65536) : port? (toString port).toList = some (some port) := by
  have hdigit : ∀ c ∈ Nat.toDigits 10 port, c.isDigit = true :=
    fun c hc => Nat.isDigit_of_mem_toDigits (by decide) (Nat.le_refl 10) hc
  have hall : ∀ c ∈ Nat.toDigits 10 port, decide (c ≠ '\\') = true := by
    intro c hc
    refine decide_eq_true ?_
    rintro rfl
    exact absurd (hdigit _ hc) (by decide)
  have hempty : (Nat.toDigits 10 port).isEmpty = false :=
    Bool.eq_false_iff.2 fun hnil => Nat.toDigits_ne_nil (List.isEmpty_iff.1 hnil)
  rw [Nat.toString_eq_ofList_toDigits, String.toList_ofList]
  unfold port?
  simp only [List.takeWhile_eq_self_iff.2 hall, hempty, List.all_eq_true.2 hdigit, Bool.false_eq_true,
    if_false, if_true, Radix.ofDigits?_toDigits, Option.bind_some, if_pos h]

theorem port?_portText {port : Option Nat} (h : ∀ number ∈ port, number < 65536) :
    port? ((portText port).drop 1) = some port := by
  cases port with
  | none => rfl
  | some number => exact port?_toString (h number rfl)

/-! ### Authorities -/

theorem splitHost_of_not_mark {name : List Char} (h : ∀ c ∈ name, c ∉ hostMarks) (port : Option Nat) :
    splitHost false (name ++ portText port) = (name, portText port) := by
  induction name with
  | nil => cases port <;> rfl
  | cons c rest ih =>
    obtain ⟨hc, hrest⟩ := List.forall_mem_cons.1 h
    simp only [hostMarks, List.mem_cons, not_or] at hc
    simp only [List.cons_append, splitHost, hc, decide_false, Bool.false_and, Bool.false_eq_true, if_false,
      ih hrest]

/-- An authority that is a plain name and perhaps a port is read as these. -/
theorem hostAndPort?_plain {name : List Char} {port : Option Nat}
    (h : ∀ label ∈ Fields.split '.' name, Idna.IsPlainLabel label) (hne : name ≠ [])
    (hnumber : Ipv4.endsInNumber name = false) (hport : ∀ number ∈ port, number < 65536 ∧ number ≠ 443) :
    hostAndPort? "https" false (name ++ portText port) = some (some (.domain (String.ofList name)), port) := by
  have hsplit := splitHost_of_not_mark (fun c hc => Idna.not_mark_of_isPlain (Idna.isPlain_of_mem h hc)) port
  have hempty : name.isEmpty = false := Bool.eq_false_iff.2 fun hnil => hne (List.isEmpty_iff.1 hnil)
  have hspecial : isSpecial "https" = true := rfl
  have hother : port ≠ defaultPort? "https" := fun hsame => (hport 443 hsame).2 rfl
  unfold hostAndPort?
  simp only [hsplit, hempty, hspecial, Bool.false_eq_true, if_false, if_true]
  rw [Host.ofDomain?_plain h hne hnumber, Option.bind_eq_bind, Option.bind_some,
    port?_portText fun number hnumber => (hport number hnumber).1, Option.bind_eq_bind, Option.bind_some,
    if_neg hother]
  rfl

theorem cutAt_of_not_mem {mark : Char} {text : List Char} (h : mark ∉ text) : cutAt mark text = (text, false) := by
  have hother : ∀ c ∈ text, decide (c ≠ mark) = true := by
    intro c hc
    exact decide_eq_true (ne_of_mem_of_not_mem hc h)
  unfold cutAt
  rw [List.takeWhile_eq_self_iff.2 hother]
  exact congrArg _ (Bool.eq_false_iff.2 fun hcontains => h (List.contains_iff_mem.1 hcontains))

/-- Without slashes, an authority has no path behind it, and no slashes before it that could be dropped. -/
theorem afterSlashes?_of_authority {authority : List Char} {host : Host} {port : Option Nat}
    (hslash : ∀ c ∈ authority, isSlash true c = false) (huser : '@' ∉ authority)
    (h : hostAndPort? "https" false authority = some (some host, port)) :
    afterSlashes? "https" authority false false = some ⟨"https", some host, port, [[]], false, false⟩ := by
  have hall : ∀ c ∈ authority, (!isSlash true c) = true := by
    intro c hc
    rw [hslash c hc]
    rfl
  have hspan : authority.span (fun c => !isSlash true c) = (authority, []) := by
    rw [List.span_eq_takeWhile_dropWhile, List.takeWhile_eq_self_iff.2 hall, List.dropWhile_eq_nil_iff.2 hall]
  have hsplit : splitUser authority = (none, authority) := by
    unfold splitUser
    rw [if_neg fun hcontains => huser (List.contains_iff_mem.1 hcontains)]
  have hauthority : ∀ endsHere, authority? "https" endsHere authority = some (some host, port) := by
    intro endsHere
    unfold authority?
    rw [hsplit]
    exact h
  have hspecial : isSpecial "https" = true := rfl
  unfold afterSlashes?
  simp only [hspecial, hspan]
  rw [hauthority]
  rfl

/-- A text without blanks is read as it stands. -/
theorem clean_of_not_blank {text : List Char} (h : ∀ c ∈ text, isBlank c = false) : clean text = text := by
  have hdrop : ∀ part : List Char, (∀ c ∈ part, isBlank c = false) → part.dropWhile isBlank = part := by
    intro part hpart
    cases part with
    | nil => rfl
    | cons c rest => rw [List.dropWhile_cons, hpart c List.mem_cons_self]; rfl
  have hkept : ∀ c ∈ text, (c ≠ '\t' && c ≠ '\n' && c ≠ '\r') = true := by
    intro c hc
    have hne : ∀ blank, isBlank blank = true → c ≠ blank := by
      rintro blank hblank rfl
      rw [h c hc] at hblank
      cases hblank
    simp [hne '\t' rfl, hne '\n' rfl, hne '\r' rfl]
  unfold clean
  simp only [hdrop text h, hdrop text.reverse fun c hc => h c (List.mem_reverse.1 hc), List.reverse_reverse]
  exact List.filter_eq_self.2 hkept

/-! ### Origins -/

/-- A text that is `https`, two slashes and an authority is read as this authority. -/
theorem parse?_secure {text : String} {authority : List Char} {host : Host} {port : Option Nat}
    (htext : text.toList = "https://".toList ++ authority)
    (hauthority : ∀ c ∈ authority, isBlank c = false ∧ (c ∉ hostMarks ∨ c = ':'))
    (h : hostAndPort? "https" false authority = some (some host, port)) :
    parse? text = some ⟨"https", some host, port, [[]], false, false⟩ := by
  -- no mark that would cut the authority is in it, but for the colon before a port
  have hmark : ∀ mark ∈ hostMarks, mark ≠ ':' → mark ∉ authority := by
    intro mark hlisted hother hmem
    exact (hauthority mark hmem).2.elim (fun hnone => hnone hlisted) hother
  have hclean : clean text.toList = "https://".toList ++ authority := by
    rw [htext]
    refine clean_of_not_blank (List.forall_mem_append.2 ⟨?_, fun c hc => (hauthority c hc).1⟩)
    simp [isBlank]
  have hscheme : scheme? (clean text.toList) = some ("https", '/' :: '/' :: authority) := by
    rw [hclean]
    rfl
  have hfragment : cutAt '#' ('/' :: '/' :: authority) = ('/' :: '/' :: authority, false) :=
    cutAt_of_not_mem (by simpa using hmark '#' (by decide) (by decide))
  have hquery : cutAt '?' ('/' :: '/' :: authority) = ('/' :: '/' :: authority, false) :=
    cutAt_of_not_mem (by simpa using hmark '?' (by decide) (by decide))
  have hslash : ∀ c ∈ authority, isSlash true c = false := by
    intro c hc
    have hne : ∀ mark ∈ hostMarks, mark ≠ ':' → c ≠ mark := by
      rintro mark hlisted hother rfl
      exact hmark c hlisted hother hc
    simp only [isSlash, hne '/' (by decide) (by decide), hne '\\' (by decide) (by decide), decide_false,
      Bool.and_false, Bool.or_false]
  have hdrop : ('/' :: '/' :: authority).dropWhile (isSlash true) = authority := by
    cases authority with
    | nil => rfl
    | cons c rest =>
      show (c :: rest).dropWhile (isSlash true) = c :: rest
      rw [List.dropWhile_cons, hslash c List.mem_cons_self]
      rfl
  have hspecial : isSpecial "https" = true := rfl
  unfold parse?
  rw [hscheme, Option.bind_eq_bind, Option.bind_some]
  simp only [hfragment, hquery, hspecial, hdrop, if_true]
  rw [if_neg (by decide)]
  exact afterSlashes?_of_authority hslash (hmark '@' (by decide) (by decide)) h

/-- The secure origin of a plain host is read as this host and its port. -/
theorem parse?_origin {name : List Char} {port : Option Nat}
    (h : ∀ label ∈ Fields.split '.' name, Idna.IsPlainLabel label) (hne : name ≠ [])
    (hnumber : Ipv4.endsInNumber name = false) (hport : ∀ number ∈ port, number < 65536 ∧ number ≠ 443) :
    parse? (origin "https" (.domain (String.ofList name)) port) =
      some ⟨"https", some (.domain (String.ofList name)), port, [[]], false, false⟩ := by
  have htext : (origin "https" (.domain (String.ofList name)) port).toList =
      "https://".toList ++ (name ++ portText port) := by
    unfold origin Host.toText
    cases port with
    | none => simp [portText]
    | some number => simp [portText]
  refine parse?_secure htext (List.forall_mem_append.2 ⟨?_, ?_⟩) (hostAndPort?_plain h hne hnumber hport)
  · intro c hc
    have hplain := Idna.isPlain_of_mem h hc
    have hle := Unicode.le_of_isPlain hplain
    refine ⟨decide_eq_false ?_, .inl (Idna.not_mark_of_isPlain hplain)⟩
    simp only [Unicode.isPlain, Bool.or_eq_true, Bool.and_eq_true, decide_eq_true_eq] at hplain
    omega
  · cases port with
    | none => exact List.forall_mem_nil _
    | some number =>
      refine List.forall_mem_cons.2 ⟨⟨rfl, .inr rfl⟩, ?_⟩
      intro c hc
      refine ⟨decide_eq_false ?_, .inl (Ipv4.not_mark_of_toString number c hc)⟩
      rw [Nat.toString_eq_ofList_toDigits, String.toList_ofList] at hc
      have hdigit := Nat.isDigit_of_mem_toDigits (by decide) (Nat.le_refl 10) hc
      have hbounds : 48 ≤ c.toNat ∧ c.toNat ≤ 57 := Char.isDigit_iff_toNat.1 hdigit
      omega

end Url

end WebAuthn
