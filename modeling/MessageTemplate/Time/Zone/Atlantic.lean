/-! The recorded histories of the zones of the Atlantic and Indian oceans. -/
namespace MessageTemplate.Zone

def atlantic : List (String × String) := [
  ("Atlantic/Azores",
    "-6160,-6872,-3600d,-7200,-3600d,-7200,-7200,0d,-3600,0d,-3600,3600d,0,0d,-3600|-18vsdwwBem12" ++
    "4wG2bufw0C6zxg0D66800Cbq580D71s40Cbq580D71s40Cbq580D73ms0Cbq580D71s40Cbq580D1b2g00E8so00Fst1" ++
    "c0E8n400F9q000E902o0Fa2yo0E902o0Fa2yo0E8n400Fst1c0E8n400F9d1c0E9d1c0Fsg2o0E9d1c0F902o0E9q000" ++
    "Fa2yo0E8n400F9d1c0E9d1c0F902o0E9q000Fa2yo0Eb5uo0F51hc0Ebmio0F99c00E9ew00F88ao0E25p80H5reo0E3" ++
    "lpg0F779c0E1sqk0H6uao0E38qs0F6uao0E25p80H6hc00E38qs0F6uao0E25p80H6hc00E38qs0F8a5c0E9d1c0F9d9" ++
    "o0E9d1c0F9d1c0E9d1c0F9d1c0E9d1c0F9d1c0E9d1c0F9d1c0E9q000F9d1c0E9d1c0F9d1c0E9d1c0F9d1c0E9d1c0" ++
    "F9d1c0E9d1c0F9d1c0E9q000F9d1c0E9d1c0F9d1c0E9d1c0F9d1c0E9d1c0F9d1c0E9d1c0F9d1c0E9d1c0F9d1c0E9" ++
    "q000F9d1c0E9d1c0F9d1c0E9d1c0F9d1c0E9d1c0F9d1c0E9d1c0I82xuc0H9d1c0I9d1c0H9d1c0I9d1c0H9q000I9d" ++
    "1c0H9d1c0I9d1c0J9d1c0K9d1c0J9d1c0K9d1c0J9d1c0K9d1c0J9d1c0K9d1c0J9q000K9d1c0J9d1c0K9d1c0J9d1c" ++
    "0K4olg0M4ofw0L46000J571c0K9d1c0J9d1c0K9d1c0J9d1c0K9q000Jasw00K7x6o0Jasw00K7x6o0Jasw00K7x6o0J" ++
    "b5uo0K7k800Jb5uo0K7k800Jb5uo0K7x6o0Jasw00K7x6o0Jasw00K7x6o0Jb5uo0K7k800Jb5uo0K7k800Jb5uo0K7k" ++
    "800Jb5uo0K7x6o0Jasw00K7x6o0Jasw00K7x6o0Jb5uo0K7k800Jb5uo0K7k800Jb5uo0K7x6o0Jasw00K7x6o0Jasw0" ++
    "0K7x6o0Jasw00K7x6o0Jb5uo0K7k800Jb5uo0K7k800Jb5uo0K7x6o0Jasw00K7x6o0Jasw00K7x6o0Jb5uo0K7k800J" ++
    "b5uo0K7k800Jb5uo0K7x6o0Jasw00K7x6o0Jasw00K7x6o0Jasw00K7x6o0Jb5uo0K7k800Jb5uo0K7k800Jb5uo0K7x" ++
    "6o0Jasw00K7x6o0Jasw00K7x6o0Jb5uo0K7k800Jb5uo0K7k800Jb5uo0K7k800Jb5uo0K7x6o0Jasw00K7x6o0Jasw0" ++
    "0K4ffjjK|<-01>1<+00>,M3.5.0/0,M10.5.0/1"),
  ("Atlantic/Bermuda",
    "-15558,-11958d,-15558,-10800d,-14400|-15r0xbuCe851c0B95jw0Ca16s0B7yyk0C5w74c0E69z5ruDeefw0E7" ++
    "x9g0Dbiqk0E6udg0Dc8nw0E6hes0Dc8nw0Est440D64ak0Ecyqs0D5ed80Edbpg0D5ed80Edoo40D51ek0Edoo40D51e" ++
    "k0Edoo40D5ed80E1xuw40D7x3w0E94r9g0D9cyk0E9d440D9cyk0E9d440D9px80E905g0D9px80E9d440D9cyk0E9d4" ++
    "40D9cyk0E9d440D9cyk0E9d440D9cyk0E9d440D9px80E905g0D9px80E9d440D9cyk0E9d440D9cyk0E9d440D9cyk0" ++
    "E8a840Dafuk0E8a840Dast80E7x9g0Dast80E7x9g0Dast80E8a840Dafuk0E8a840Dafuk0E8a840Dast80E7x9g0Da" ++
    "st80E7x9g0Dast80E8a840Dafuk0E8a840Dafuk0E8a840Dafuk0E8a840Dast80E7x9g0Dast80E7x9g0Dast80E8a8" ++
    "40Dafuk0E8a840Dafuk0E8a840Dast80E7x9g0Dast80E7x9g0Dast80E6udg0Dc8nw0E6hes0Dc8nw0E6hes0Dc8nw0" ++
    "E6udg0Dc8nw0E6hes0Dc8nw0E6hes0Dc8nw0E6hes0Dc8nw0E6hes0Dc8nw0E6hes0Dc8nw0E6udg0Dc8nw0E6hes0Dc" ++
    "8nw0E6hes0Dc8nw0E6hes0Dc8nw0E6hes0Dc8nw0E6udg0Dc8nw0E6hes0Dc8nw0E6hes0Dc8nw0E6hes0Dc8nw0E6he" ++
    "s0Dc8nw0E6hes0Dc8nw0E6udg0Dc8nw0E6hes0Dc8nw0E6hes0Dc8nw0E6hes0Dc8nw0E6hes0Dc8nw0E6udg0Dc8nw0" ++
    "E6hes0Dc8nw0E6hes0Dc8nw0E6hes0Dc8nw0E6hes0Dc8nw0E6hes0Dc8nw0E|AST4ADT,M3.2.0,M11.1.0"),
  ("Atlantic/Canary",
    "-3696,-3600,0,3600d,0,3600d|-oytbtcBctvupcChhq7s0D905g0E9d1c0F9d1c0E9d1c0F9d1c0E9d1c0F9d1c0E" ++
    "9d1c0F9q000E9d1c0F9d1c0E9d1c0F9d1c0E9d1c0F9d1c0E9d1c0F9d1c0E9d1c0F9d1c0E9d1c0F9q000E9d1c0F9d" ++
    "1c0E9d1c0F9d1c0E9d1c0F9d1c0E9d1c0F9d1c0E9d1c0F9d1c0E9q000Fasw00E7x6o0Fasw00E7x6o0Fasw00E7x6o" ++
    "0Fb5uo0E7k800Fb5uo0E7k800Fb5uo0E7x6o0Fasw00E7x6o0Fasw00E7x6o0Fb5uo0E7k800Fb5uo0E7k800Fb5uo0E" ++
    "7k800Fb5uo0E7x6o0Fasw00E7x6o0Fasw00E7x6o0Fb5uo0E7k800Fb5uo0E7k800Fb5uo0E7x6o0Fasw00E7x6o0Fas" ++
    "w00E7x6o0Fasw00E7x6o0Fb5uo0E7k800Fb5uo0E7k800Fb5uo0E7x6o0Fasw00E7x6o0Fasw00E7x6o0Fb5uo0E7k80" ++
    "0Fb5uo0E7k800Fb5uo0E7x6o0Fasw00E7x6o0Fasw00E7x6o0Fasw00E7x6o0Fb5uo0E7k800Fb5uo0E7k800Fb5uo0E" ++
    "7x6o0Fasw00E7x6o0Fasw00E7x6o0Fb5uo0E7k800Fb5uo0E7k800Fb5uo0E7k800Fb5uo0E7x6o0Fasw00E7x6o0Fas" ++
    "w00E|WET0WEST,M3.5.0/1,M10.5.0"),
  ("Atlantic/Cape_Verde",
    "-5644,-7200,-3600d,-7200,-3600|-u9rbs0Bg06lc0C1mn180Dfpqwc0EwfqtvjE|<-01>1"),
  ("Atlantic/Faroe",
    "-1624,0,3600d,0|-wcehewB127keuwC9d1c0D9d1c0C9d1c0D9d1c0C9d1c0D9d1c0C9q000D9d1c0C9d1c0D9d1c0C" ++
    "9d1c0D9d1c0C9d1c0D9d1c0C9d1c0D9d1c0C9d1c0D9d1c0C9q000D9d1c0C9d1c0D9d1c0C9d1c0D9d1c0C9d1c0D9d" ++
    "1c0C9d1c0D9d1c0C9d1c0D9q000Casw00D7x6o0Casw00D7x6o0Casw00D7x6o0Cb5uo0D7k800Cb5uo0D7k800Cb5uo" ++
    "0D7x6o0Casw00D7x6o0Casw00D7x6o0Cb5uo0D7k800Cb5uo0D7k800Cb5uo0D7k800Cb5uo0D7x6o0Casw00D7x6o0C" ++
    "asw00D7x6o0Cb5uo0D7k800Cb5uo0D7k800Cb5uo0D7x6o0Casw00D7x6o0Casw00D7x6o0Casw00D7x6o0Cb5uo0D7k" ++
    "800Cb5uo0D7k800Cb5uo0D7x6o0Casw00D7x6o0Casw00D7x6o0Cb5uo0D7k800Cb5uo0D7k800Cb5uo0D7x6o0Casw0" ++
    "0D7x6o0Casw00D7x6o0Casw00D7x6o0Cb5uo0D7k800Cb5uo0D7k800Cb5uo0D7x6o0Casw00D7x6o0Casw00D7x6o0C" ++
    "b5uo0D7k800Cb5uo0D7k800Cb5uo0D7k800Cb5uo0D7x6o0Casw00D7x6o0Casw00D|WET0WEST,M3.5.0/1,M10.5.0"),
  ("Atlantic/Madeira",
    "-4056,-4056,0d,-3600,0d,-3600,-3600,3600d,0,3600d,3600d,0,3600d|-18vsfjcBem10zcG2bufw0C6zxg0" ++
    "D66800Cbq580D71s40Cbq580D71s40Cbq580D73ms0Cbq580D71s40Cbq580D1b2g00E8so00Fst1c0E8n400F9q000E" ++
    "902o0Fa2yo0E902o0Fa2yo0E8n400Fst1c0E8n400F9d1c0E9d1c0Fsg2o0E9d1c0F902o0E9q000Fa2yo0E8n400F9d" ++
    "1c0E9d1c0F902o0E9q000Fa2yo0Eb5uo0F51hc0Ebmio0F99c00E9ew00F88ao0E25p80H5reo0E3lpg0F779c0E1sqk" ++
    "0H6uao0E38qs0F6uao0E25p80H6hc00E38qs0F6uao0E25p80H6hc00E38qs0F8a5c0E9d1c0F9d9o0E9d1c0F9d1c0E" ++
    "9d1c0F9d1c0E9d1c0F9d1c0E9d1c0F9d1c0E9q000F9d1c0E9d1c0F9d1c0E9d1c0F9d1c0E9d1c0F9d1c0E9d1c0F9d" ++
    "1c0E9q000F9d1c0E9d1c0F9d1c0E9d1c0F9d1c0E9d1c0F9d1c0E9d1c0F9d1c0E9d1c0F9d1c0E9q000F9d1c0E9d1c" ++
    "0F9d1c0E9d1c0F9d1c0E9d1c0F9d1c0E9d1c0I83at00K902o0I9d1c0J9d1c0I9d1c0J9q000I9d1c0J9d1c0I9d1c0" ++
    "J9d440L9d1c0M9d1c0L9d1c0M9d1c0L9d1c0M9d1c0L9d1c0M9q000L9d1c0M9d1c0L9d1c0M9d1c0L9d1c0M9d1c0L9" ++
    "d1c0M9d1c0L9d1c0M9d1c0L9q000Masw00L7x6o0Masw00L7x6o0Masw00L7x6o0Mb5uo0L7k800Mb5uo0L7k800Mb5u" ++
    "o0L7x6o0Masw00L7x6o0Masw00L7x6o0Mb5uo0L7k800Mb5uo0L7k800Mb5uo0L7k800Mb5uo0L7x6o0Masw00L7x6o0" ++
    "Masw00L7x6o0Mb5uo0L7k800Mb5uo0L7k800Mb5uo0L7x6o0Masw00L7x6o0Masw00L7x6o0Masw00L7x6o0Mb5uo0L7" ++
    "k800Mb5uo0L7k800Mb5uo0L7x6o0Masw00L7x6o0Masw00L7x6o0Mb5uo0L7k800Mb5uo0L7k800Mb5uo0L7x6o0Masw" ++
    "00L7x6o0Masw00L7x6o0Masw00L7x6o0Mb5uo0L7k800Mb5uo0L7k800Mb5uo0L7x6o0Masw00L7x6o0Masw00L7x6o0" ++
    "Mb5uo0L7k800Mb5uo0L7k800Mb5uo0L7k800Mb5uo0L7x6o0Masw00L7x6o0Masw00L|WET0WEST,M3.5.0/1,M10.5." ++
    "0"),
  ("Atlantic/Reykjavik",
    "-5280,0d,-3600,-3600,0d,0|-wcwx9cC4rpd9cBci2s0C69uk0Bdu840C4xp80Bdu840Cp7bw0B4w040C9bdzw0B9d" ++
    "6w0C64g40Bcyl80D64dc0Eclpc0D6hc00Ebvs00D6uao0Ebvs00D6uao0Ebvs00D6uao0Ec8qo0D6hc00Ec8qo0D8a5c" ++
    "0Eafxc0D8a5c0Eafxc0D8a5c0Easw00D7x6o0Eafxc0D8a5c0Easw00D8a5c0Eafxc0D8a5c0Eafxc0D8a5c0Eafxc0D" ++
    "8a5c0Eafxc0D8a5c0Easw00D8a5c0Eafxc0D8a5c0Eafxc0D8a5c0Eafxc0D8a5c0Eafxc0D8a5c0Eafxc0D8a5c0Eas" ++
    "w00D8a5c0Eafxc0D8a5c0Eafxc0D8a5c0Eafxc0D8a5c0Eafxc0D8a5c0Easw00D8a5c0F|GMT0"),
  ("Atlantic/South_Georgia",
    "-8768,-7200|-15r12kgB259l3jzB|<-02>2"),
  ("Atlantic/St_Helena",
    "-1368,-1368,0|-15r18a0Bvu1eo0C|GMT0"),
  ("Atlantic/Stanley",
    "-13884,-13884,-10800d,-14400,-7200d,-10800,-10800d|-15r0ymcBbkx9c0DdbvxqcC8zzw0D9q2s0C8zzw0D" ++
    "a31g0C8zzw0D9q2s0C8zzw0D9q2s0C8zzw0D9q2s0C4xp80Dl1pus0F7k580Eb5rw0F77c40Ebiqk0F77c40Cb5uo0D7" ++
    "kas0Cb5rw0D7kas0Cb5rw0D7kas0Cb5rw0D7kas0Cbiqk0D77c40Cbiqk0D7kas0Cb5rw0D7kas0Cb5rw0D7kas0Cb5r" ++
    "w0D7kas0Cb5rw0D7kas0Cbiqk0D7kas0Cb5rw0D7kas0Cb5rw0D7kas0Cb5rw0D7kas0Cb5rw0D7kas0Cb5xg0D77c40" ++
    "Cbvp80D6udg0Cbvp80D77c40Cbiqk0D77c40Cbiqk0D77c40Cbiqk0D77c40Cbiqk0D77c40Cbvp80D77c40Cbiqk0D7" ++
    "7c40Cbiqk0D77c40FeaalnjF|<-03>3"),
  ("Indian/Antananarivo",
    "11404,10800,14400d,10800|-uj8gssBm9lccsC4oio0D|EAT-3"),
  ("Indian/Chagos",
    "17380,18000,21600|-wvpc2sB1ag64usCly387jC|<+06>-6"),
  ("Indian/Christmas",
    "25372,25200|-133iwwsB22m2xwbB|<+07>-7"),
  ("Indian/Cocos",
    "23260,23400|-10j6sm4B201qtlnB|<+0630>-6:30"),
  ("Indian/Comoro",
    "10384,10800|-uj8g0gB|EAT-3"),
  ("Indian/Kerguelen",
    "0,18000|-afrs00B19ybszjB|<+05>-5"),
  ("Indian/Mahe",
    "13308,14400|-wvp8xoB1we99x7B|<+04>-4"),
  ("Indian/Maldives",
    "17640,17640,18000|-1ayyga0B15r19c0C14qh7xjC|<+05>-5"),
  ("Indian/Mauritius",
    "13800,18000d,14400|-wvp9bcC13jnu7cB8bx80Cdd0wc0B7x3w0Cf1binjC|<+04>-4"),
  ("Indian/Mayotte",
    "10856,10800|-uj8gdkB|EAT-3"),
  ("Indian/Reunion",
    "13312,14400|-uks29sB1u3c39bB|<+04>-4")]

end MessageTemplate.Zone
