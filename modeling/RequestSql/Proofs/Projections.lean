import RequestSql.Proofs.Boundaries
import RequestSql.Proofs.Directives

namespace RequestSql

section Outcomes

variable {ε α β γ : Type} {x y : Except ε α} {view : α → γ} {f g : α → Except ε β}

end Outcomes

namespace Options

variable {o : Options} {given given' : Directives}

end Options

end RequestSql
