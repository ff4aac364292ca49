import ParamSql.Compile.Interpolation
import ParamSql.Config
import ParamSql.Statement.Like
import ParamSql.Proofs.Boolean
import ParamSql.Proofs.ByHand
import ParamSql.Proofs.Correspond
import ParamSql.Proofs.Locks
import ParamSql.Proofs.Interpolated
import ParamSql.Proofs.Implied
import ParamSql.Proofs.Requoted
import ParamSql.Proofs.Translated
import ParamSql.Proofs.Refusals
import ParamSql.Proofs.Negation
import ParamSql.Proofs.Membership
import ParamSql.Proofs.Preconverted
import ParamSql.Proofs.Fitting
import ParamSql.Proofs.Filled
import ParamSql.Proofs.OncePerKey
import ParamSql.Proofs.Visible
import ParamSql.Proofs.Literals
import ParamSql.Proofs.Tokens
import ParamSql.Proofs.Decoded
import ParamSql.Proofs.Searches
import ParamSql.Proofs.ListColumns
import ParamSql.Proofs.StoredLists
import ParamSql.Proofs.Imported
import ParamSql.Proofs.WholeNumbers
import ParamSql.Proofs.Chronology
import ParamSql.Proofs.TypeNames
import ParamSql.Proofs.Truncation
import ParamSql.Proofs.Reports
import ParamSql.Proofs.Returns
