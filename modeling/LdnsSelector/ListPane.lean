import LdnsSelector.Define

set_option autoImplicit true

namespace LdnsSelector

def listItemSelectedColor : UInt32 := 0xFF1A86D2

/-- The background the skin gives to a new row. -/
def listItemColor : UInt32 := 0xFFD7AD69

/-- A row of a list: the item that stands for its pointer, what its labels show and its
background. -/
structure ListItem (ν : Type) where
  item : Nat
  info : ν
  bkColor : UInt32
  deriving DecidableEq, Repr

/-- One of the two lists of the window with the members of `ui` that belong to it. The map
takes a row to what is switched when it is selected. -/
structure ListPane (ν κ : Type) where
  rows : List (ListItem ν) := []
  curSel : Option Nat := none
  mapItem : List (Nat × κ) := []
  lastSelectedItem : Option Nat := none
  originItemColor : UInt32 := 0xFFFFFFFF
  deriving DecidableEq, Repr

namespace ListPane

/-- `CListUI::SelectItem` on a list whose rows are all visible and enabled. -/
def selectItem (pane : ListPane ν κ) (index : Option Nat) : ListPane ν κ :=
  { pane with curSel := index.filter (· < pane.rows.length) }

def setBkColor (pane : ListPane ν κ) (item : Nat) (color : UInt32) : ListPane ν κ :=
  { pane with rows := pane.rows.map fun row =>
      if row.item = item then { row with bkColor := color } else row }

def indexOf (pane : ListPane ν κ) (item : Nat) : Option Nat :=
  pane.rows.findIdx? fun row => row.item = item

/-- One of the two halves of `ui::OnItemClick`. -/
def onItemClick (pane : ListPane ν κ) (item : Nat) : ListPane ν κ :=
  match pane.mapItem.lookup item with
  | none => pane
  | some _ =>
    let restored := match pane.lastSelectedItem with
      | none => pane
      | some last => pane.setBkColor last pane.originItemColor
    let painted := restored.setBkColor item listItemSelectedColor
    { painted with lastSelectedItem := some item }.selectItem (painted.indexOf item)

/-- A click on a row: the notification comes first, then the list selects the row. -/
def rowClick (pane : ListPane ν κ) (item : Nat) : ListPane ν κ :=
  match pane.indexOf item with
  | none => pane
  | some index => (pane.onItemClick item).selectItem (some index)

/-- A key other than return, pressed while the list has the focus: the cases of the source
fall through to the one that selects the last row. -/
def keyDown (pane : ListPane ν κ) : ListPane ν κ :=
  pane.selectItem (if pane.rows.isEmpty then none else some (pane.rows.length - 1))

def clear (_ : ListPane ν κ) : ListPane ν κ := {}

/-- A refresh adds a row. The first row gives the colour of an unselected one. -/
def addRow (pane : ListPane ν κ) (item : Nat) (info : ν) (key : κ) : ListPane ν κ :=
  { pane with
    originItemColor :=
      if pane.originItemColor = 0xFFFFFFFF then listItemColor else pane.originItemColor
    rows := pane.rows ++ [⟨item, info, listItemColor⟩]
    mapItem := pane.mapItem ++ [(item, key)] }

def selected (pane : ListPane ν κ) : Option κ :=
  (pane.curSel.bind (pane.rows[·]?)).bind fun row => pane.mapItem.lookup row.item

end ListPane

end LdnsSelector
