import AnalysisWebhooks.Proofs.Text.Form
import AnalysisWebhooks.Webhook.Link

namespace AnalysisWebhooks

open Text

structure Carries (query : String) (fields : List (String × String)) : Prop where
  read : ((pieces '&' query.toList).map fun field => (pieces '=' field).map formDecode) =
    fields.map fun f => [f.1, f.2]
  plain : ∀ field ∈ pieces '&' query.toList, ∀ part ∈ pieces '=' field, Plain part

theorem Carries.unique {query : String} {fields fields' : List (String × String)}
    (h : Carries query fields) (h' : Carries query fields') : fields = fields' := by
  refine List.map_injective_iff.2 (fun f g hfg => ?_) (h.read.symm.trans h'.read)
  simp only [List.cons.injEq, and_true] at hfg
  exact Prod.ext hfg.1 hfg.2

def Branch.IsSide (b : Branch) : Prop :=
  ¬ (b.kind = .long ∧ b.isMain = true)

instance : DecidablePred Branch.IsSide := fun b =>
  inferInstanceAs (Decidable (¬ (b.kind = .long ∧ b.isMain = true)))

theorem Branch.IsSide.isMain {b : Branch} (h : b.IsSide) (hkind : b.kind = .long) :
    b.isMain = false :=
  Bool.eq_false_iff.2 fun hmain => h ⟨hkind, hmain⟩

namespace Server

def IsFieldName (name : String) : Prop :=
  formEncode name = name

instance : DecidablePred IsFieldName := fun name =>
  inferInstanceAs (Decidable (formEncode name = name))

theorem isFieldName_id : IsFieldName "id" := by decide +kernel

theorem isFieldName_branch : IsFieldName "branch" := by decide +kernel

theorem isFieldName_resolved : IsFieldName "resolved" := by decide +kernel

def parts (f : String × String) : List (List Char) :=
  [f.1.toList, (formEncode f.2).toList]

variable {fields : List (String × String)}

theorem plain_parts {f : String × String} (h : IsFieldName f.1) : ∀ p ∈ parts f, Plain p := by
  simp only [parts, List.forall_mem_cons]
  exact ⟨h ▸ plain_formEncode f.1, plain_formEncode f.2, List.forall_mem_nil _⟩

theorem pieces_parts {f : String × String} (h : IsFieldName f.1) :
    pieces '=' (['='].intercalate (parts f)) = parts f :=
  pieces_intercalate (fun p hp => (plain_parts h p hp).not_mem (by decide)) (List.cons_ne_nil _ _)

theorem toList_query (fields : List (String × String)) : (query fields).toList =
    ['&'].intercalate (fields.map fun f => ['='].intercalate (parts f)) := by
  rw [query, String.toList_intercalate, List.map_map]
  congr 1
  refine List.map_congr_left fun f _ => ?_
  simp [parts, List.intercalate]

theorem pieces_query (h : ∀ f ∈ fields, IsFieldName f.1) (hne : fields ≠ []) :
    pieces '&' (query fields).toList = fields.map fun f => ['='].intercalate (parts f) := by
  rw [toList_query]
  refine pieces_intercalate (List.forall_mem_map.2 fun f hf => ?_) (by simpa using hne)
  have hplain := plain_parts (h f hf)
  have hname := (hplain f.1.toList List.mem_cons_self).not_mem (c := '&') (by decide)
  have hvalue := (plain_formEncode f.2).not_mem (c := '&') (by decide)
  simp [parts, List.intercalate, hname, hvalue]

theorem carries_query (h : ∀ f ∈ fields, IsFieldName f.1) (hne : fields ≠ []) :
    Carries (query fields) fields where
  read := by
    rw [pieces_query h hne, List.map_map]
    refine List.map_congr_left fun f hf => ?_
    rw [Function.comp, pieces_parts (h f hf)]
    simp only [parts, List.map_cons, List.map_nil, formDecode_formEncode,
      formDecode_of_plain (h f hf)]
  plain := by
    rw [pieces_query h hne]
    refine List.forall_mem_map.2 fun f hf => ?_
    rw [pieces_parts (h f hf)]
    exact plain_parts (h f hf)

def Leads (s : Server) (path : String) (fields : List (String × String)) (link : String) : Prop :=
  ∃ query, link = s.url ++ path ++ "?" ++ query ∧ Carries query fields

variable {s : Server} {path path' link key key' : String} {fields' : List (String × String)}
  {b b' : Branch}

theorem leads_page (h : ∀ f ∈ fields, IsFieldName f.1) (hne : fields ≠ []) :
    s.Leads path fields (s.page path fields) :=
  ⟨query fields, rfl, carries_query h hne⟩

theorem Leads.unique (h : s.Leads path fields link) (h' : s.Leads path' fields' link)
    (hpath : '?' ∉ path.toList) (hpath' : '?' ∉ path'.toList) :
    path = path' ∧ fields = fields' := by
  obtain ⟨query, hlink, hquery⟩ := h
  obtain ⟨query', hlink', hquery'⟩ := h'
  have hchars := congrArg String.toList (hlink.symm.trans hlink')
  simp only [String.toList_append, List.append_assoc, List.append_cancel_left_eq] at hchars
  have hpaths : path = path' := by
    have htaken := congrArg (List.takeWhile (· ≠ '?')) hchars
    exact String.toList_inj.1 <|
      (takeWhile_ne_append hpath _).symm.trans (htaken.trans (takeWhile_ne_append hpath' _))
  subst hpaths
  have hqueries : query = query' := String.toList_inj.1 (by simpa using hchars)
  exact ⟨rfl, hquery.unique (hqueries ▸ hquery')⟩

theorem leads_projectLink (s : Server) (key : String) :
    s.Leads "/project/dashboard" [("id", key)] (s.projectLink key) :=
  leads_page (by simpa using isFieldName_id) (List.cons_ne_nil _ _)

theorem leads_branchLink_main (s : Server) (key : String) (hkind : b.kind = .long)
    (hmain : b.isMain = true) :
    s.Leads "/project/dashboard" [("id", key)] (s.branchLink key b) := by
  rw [branchLink, hkind, hmain]
  exact s.leads_projectLink key

theorem leads_branchLink_long (s : Server) (key : String) (hkind : b.kind = .long)
    (hmain : b.isMain = false) :
    s.Leads "/project/dashboard" [("branch", branchName b), ("id", key)]
      (s.branchLink key b) := by
  rw [branchLink, hkind, hmain]
  exact leads_page (by simpa using ⟨isFieldName_branch, isFieldName_id⟩) (List.cons_ne_nil _ _)

theorem leads_branchLink_short (s : Server) (key : String) (hkind : b.kind = .short) :
    s.Leads "/project/issues" [("branch", branchName b), ("id", key), ("resolved", "false")]
      (s.branchLink key b) := by
  rw [branchLink, hkind]
  exact leads_page (by simpa using ⟨isFieldName_branch, isFieldName_id, isFieldName_resolved⟩)
    (List.cons_ne_nil _ _)

theorem branchLink_inj (side : b.IsSide) (side' : b'.IsSide)
    (h : s.branchLink key b = s.branchLink key' b') :
    b.kind = b'.kind ∧ key = key' ∧ branchName b = branchName b' := by
  cases hkind : b.kind <;> cases hkind' : b'.kind
  case long.long =>
    have leads := s.leads_branchLink_long key hkind (side.isMain hkind)
    obtain ⟨-, hfields⟩ := leads.unique
      (h ▸ s.leads_branchLink_long key' hkind' (side'.isMain hkind')) (by decide) (by decide)
    simp only [List.cons.injEq, Prod.mk.injEq, true_and, and_true] at hfields
    exact ⟨rfl, hfields.2, hfields.1⟩
  case short.short =>
    have leads := s.leads_branchLink_short key hkind
    obtain ⟨-, hfields⟩ := leads.unique (h ▸ s.leads_branchLink_short key' hkind') (by decide)
      (by decide)
    simp only [List.cons.injEq, Prod.mk.injEq, true_and, and_true] at hfields
    exact ⟨rfl, hfields.2, hfields.1⟩
  case long.short =>
    have leads := s.leads_branchLink_long key hkind (side.isMain hkind)
    obtain ⟨hpath, -⟩ := leads.unique (h ▸ s.leads_branchLink_short key' hkind') (by decide)
      (by decide)
    exact absurd hpath (by decide)
  case short.long =>
    have leads := s.leads_branchLink_short key hkind
    obtain ⟨hpath, -⟩ := leads.unique
      (h ▸ s.leads_branchLink_long key' hkind' (side'.isMain hkind')) (by decide) (by decide)
    exact absurd hpath (by decide)

theorem branchLink_congr (side : b.IsSide) (side' : b'.IsSide) (hkind : b.kind = b'.kind)
    (hname : branchName b = branchName b') : s.branchLink key b = s.branchLink key b' := by
  unfold branchLink
  rw [← hkind, ← hname]
  cases h : b.kind with
  | short => rfl
  | long => rw [side.isMain h, side'.isMain (hkind ▸ h)]

theorem branchName_plain (isMain : Bool) (name : Option String) (kind : BranchKind) :
    branchName ⟨isMain, name.map .plain, kind⟩ = name.getD "" := by
  cases name <;> rfl

theorem links_carry_names (address key : String) (isMain : Bool) (name : Option String)
    (kind : BranchKind) :
    let s := ofText address
    let b : Branch := ⟨isMain, name.map .plain, kind⟩
    (∃ n, address.toList = s.url.toList ++ List.replicate n '/') ∧
    s.url.toList.getLast? ≠ some '/' ∧
    s.Leads "/project/dashboard" [("id", key)] (s.projectLink key) ∧
    (kind = .long → isMain = true →
      s.Leads "/project/dashboard" [("id", key)] (s.branchLink key b)) ∧
    (kind = .long → isMain = false →
      s.Leads "/project/dashboard" [("branch", name.getD ""), ("id", key)]
        (s.branchLink key b)) ∧
    (kind = .short →
      s.Leads "/project/issues" [("branch", name.getD ""), ("id", key), ("resolved", "false")]
        (s.branchLink key b)) ∧
    ∀ (key' : String) (isMain' : Bool) (name' : Option String) (kind' : BranchKind),
      let b' : Branch := ⟨isMain', name'.map .plain, kind'⟩
      b.IsSide → b'.IsSide →
        (s.branchLink key b = s.branchLink key' b' ↔
          kind = kind' ∧ key = key' ∧ name.getD "" = name'.getD "") := by
  intro s b
  have hname : branchName b = name.getD "" := branchName_plain isMain name kind
  refine ⟨toList_eq_dropEnd_append '/' address, getLast?_dropEnd '/' address,
    s.leads_projectLink key, s.leads_branchLink_main (b := b) key,
    hname ▸ s.leads_branchLink_long (b := b) key, hname ▸ s.leads_branchLink_short (b := b) key,
    fun key' isMain' name' kind' => ?_⟩
  intro b' side side'
  have hname' : branchName b' = name'.getD "" := branchName_plain isMain' name' kind'
  rw [← hname, ← hname']
  constructor
  · exact branchLink_inj side side'
  · rintro ⟨hkind, rfl, hnames⟩
    exact branchLink_congr side side' hkind hnames

def forged : Branch := ⟨false, some "x&id=y#1", .short⟩

theorem links_carry_names_forged :
    (ofText "http://h/c//").url = "http://h/c" ∧
    (ofText "http://h/c//").branchLink "a=b +%/ü😀" forged =
      "http://h/c/project/issues?branch=x%26id%3Dy%231&id=a%3Db+%2B%25%2F%C3%BC%F0%9F%98%80" ++
        "&resolved=false" ∧
    (ofText "http://h/c//").Leads "/project/issues"
      [("branch", "x&id=y#1"), ("id", "a=b +%/ü😀"), ("resolved", "false")]
      ((ofText "http://h/c//").branchLink "a=b +%/ü😀" forged) ∧
    (ofText "http://h/c//").branchLink "a=b +%/ü😀" forged ≠
      (ofText "http://h/c//").branchLink "y#1&id=a=b +%/ü😀" ⟨true, some "x", .short⟩ := by
  obtain ⟨-, -, -, -, -, short, distinct⟩ :=
    links_carry_names "http://h/c//" "a=b +%/ü😀" false (some "x&id=y#1") .short
  refine ⟨by decide +kernel, by decide +kernel, short rfl, fun heq => ?_⟩
  have hkey := ((distinct _ true (some "x") .short (by decide) (by decide)).1 heq).2.1
  exact absurd hkey (by decide)

end Server

end AnalysisWebhooks
