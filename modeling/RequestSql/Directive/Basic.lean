import RequestSql.Request.Params

namespace RequestSql

inductive Directive where
  | select | filter | orderBy | top | skip | expand | apply
  deriving DecidableEq

def Directive.key : Directive → Text
  | .select => "$select".toList
  | .filter => "$filter".toList
  | .orderBy => "$orderby".toList
  | .top => "$top".toList
  | .skip => "$skip".toList
  | .expand => "$expand".toList
  | .apply => "$apply".toList

abbrev Directives := Directive → Option Text

def Params.directives (p : Params) : Directives := fun d =>
  (p.get? d.key).filter fun value => !value.isAllBlank

end RequestSql
