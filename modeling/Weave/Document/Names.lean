import Weave.Document.Node

/-!
# Component and attribute names

The fixed vocabulary of the components that the passes make.  A renderer may rely on every
component being named by one of these, by `headerOf` or `contentOf` of one of them, or by a custom
base taken from a heading directive.

* `Section`, `Collapsible` and custom bases carry `data-depth`, `defaultExpanded` when they are
  collapsible and expanded, and `collapsible` when a named base is collapsible;
* their header and content components carry nothing;
* `OrderedList` and `UnorderedList` carry `level`;
* items carry `level`, `number` in ordered lists, and `headerItem` when set.
-/

namespace Weave.Names

def plainSection : Text := "Section"
def collapsible : Text := "Collapsible"
def orderedList : Text := "OrderedList"
def unorderedList : Text := "UnorderedList"
def listItem : Text := "ListItem"
def featureListItem : Text := "FeatureListItem"
def advantageListItem : Text := "AdvantageListItem"
def disadvantageListItem : Text := "DisadvantageListItem"

/-- The component of a table of contents, which no section captures. -/
def tableOfContents : Text := "TableOfContents"

/-- The variant tags of list items. -/
def itemVariants : List Text := ["feature".toList, "advantage".toList, "disadvantage".toList]

/-- The rank of a wrapped section's heading. -/
def depthAttribute : Text := "data-depth"

/-- The nesting level of a list, from 1. -/
def levelAttribute : Text := "level"

/-- The number shown for an item of an ordered list. -/
def numberAttribute : Text := "number"

/-- Marks an item whose text ends in a colon. -/
def headerItemAttribute : Text := "headerItem"

/-- Marks a collapsible section that starts expanded. -/
def defaultExpandedAttribute : Text := "defaultExpanded"

/-- Marks a collapsible section whose name does not say so. -/
def collapsibleAttribute : Text := "collapsible"

/-- The name of a section's header component. -/
def headerOf (base : Text) : Text := base ++ "Header"

/-- The name of a section's content component. -/
def contentOf (base : Text) : Text := base ++ "Content"

/-- The component name of a list item with this variant tag. -/
def itemComponent (variant : Option Text) : Text :=
  if variant = some "feature" then featureListItem
  else if variant = some "advantage" then advantageListItem
  else if variant = some "disadvantage" then disadvantageListItem
  else listItem

end Weave.Names
