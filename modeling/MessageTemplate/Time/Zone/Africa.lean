/-! The recorded histories of the zones of Africa. -/
namespace MessageTemplate.Zone

def africa : List (String × String) := [
  ("Africa/Abidjan",
    "-968,0|-u9rgl4B|GMT0"),
  ("Africa/Accra",
    "-52,1200d,0,1800,1800d,0|-s9p1akC24aamkB1yhyoCcjvlcB69weoCci0xcB69weoCci0xcB69weoCci0xcB69we" ++
    "oCcjvlcB69weoCci0xcB69weoCci0xcB69weoCci0xcB69weoCcjvlcB69weoCci0xcB69weoCci0xcB69weoCci0xcB" ++
    "69weoCcjvlcB69weoCci0xcB69weoCci0xcB69weoCci0xcB69weoCcjvlcB69weoCci0xcB69weoCci0xcB69weoCci" ++
    "0xcB69weoC683lcBcloeoC668xcBcloeoC1y8pcD21gem0C2fehm0E69vy0Cci1e0E69vy0Ccjw20E69vy0Cci1e0E69" ++
    "vy0Cci1e0E69vy0Cci1e0E69vy0C|GMT0"),
  ("Africa/Addis_Ababa",
    "9288,9320,10800|-1g6t8i0Bymedb4C|EAT-3"),
  ("Africa/Algiers",
    "732,561,3600d,0,0,7200d,3600,3600d|-154gb8cBafgo4rE2qx1nlC5luo0D8y800Ca4tc0D7vc00Cauqo0D7idc" ++
    "0Cb7pc0D6sg00Ccyo00D7ayo0C53c00D9idxc0C3i040E51mw0G253uk0F9o2k0G92040F8l3s0Gjutc0E4uy840G3rd" ++
    "zw0E46xc00C7x6o0D2xco40H8n180G7x9g0F9d440Gkiqg0E9d440H9q2s0E9cyk0G|CET-1"),
  ("Africa/Asmara",
    "9332,9332,9320,10800|-1g6t8j8Bafrs00Co6mlccD|EAT-3"),
  ("Africa/Bamako",
    "-1920,0,-3600,0|-u9rfuoBbk956oCdqe840B|GMT0"),
  ("Africa/Bangui",
    "4460,3600|-u9rkrwB|WAT-1"),
  ("Africa/Banjul",
    "-3996,-3996,-3600,0|-u9re90Bb38800C4m1rp0D|GMT0"),
  ("Africa/Bissau",
    "-3740,-3600,0|-u9rek0Bwvoyo0C|GMT0"),
  ("Africa/Blantyre",
    "8400,8470,8460,7200|-ui1t5cB1j56m2C5qqlcaD|CAT-2"),
  ("Africa/Brazzaville",
    "3668,3600|-u9rk5wB|WAT-1"),
  ("Africa/Bujumbura",
    "7048,7200|-15r1ersB|CAT-2"),
  ("Africa/Cairo",
    "7509,10800d,7200,10800d|-1054wglCkrj48lB40d80Ca31g0B7x3w0Ca4w40Baqyk0C80ys0Bb07w0C7tk40Bb07w" ++
    "0C8jhg0Ba8fw0C60go40B7el80Cawo40B7v980Cawqw0B7tk40Cb07w0B7tk40Cayd80B7tk40Cayd80B7tk40Cayd80" ++
    "B7tk40Cb07w0B7tk40Cayd80B7tk40Cayd80B7ves0Cawik0B7ves0Cayd80B7ves0Cawik0B7ves0Cawik0B7ves0Ca" ++
    "wik0B7ves0Cayd80B7ves0Cawik0B7ves0Cawik0B7ves0Cawik0B7ves0Cayd80B7ves0Cawik0B7ves0Cawik0B7ve" ++
    "s0Cawik0B7ves0Cayd80B7ves0Cawik0B7ves0Cf9x80B3i040Celuk0B462s0Cayd80B7ves0Cawik0B7ves0Cawik0" ++
    "B7ves0Cawik0B7ves0Cayd80B7ves0Cb5rw0B7m5g0Cawik0B7ves0Cawik0B7ves0Cayd80B7ves0Cawik0B7ves0Ca" ++
    "wik0B7ves0Caqvs0D7x3w0Casys0D7x3w0Casys0D7x3w0Casys0D7x3w0Cb5xg0D7x3w0Casys0D7x3w0Casys0D7x3" ++
    "w0Casys0D7x3w0Casys0D7x3w0Cb5xg0D7x3w0Casys0D7x3w0Casys0D7k580Cb5xg0D6u7w0Cbvus0D6h980Cc8tg0" ++
    "D64ak0Ccyqs0D5anw0C1jms0B12t80C1w22s0B25p80C1sw40B2vmk0C4hbhg0B9cyk0C9d440B9px80C905g0B9px80" ++
    "C905g0B9px80C9d440B9cyk0C9d440B9cyk0C9d440B9cyk0C9d440B9px80C905g0B9px80C9d440B9cyk0C9d440B9" ++
    "cyk0C9d440B9cyk0C9d440B9cyk0C9d440B9px80C905g0B9px80C|EET-2EEST,M4.5.5/0,M10.5.4/24"),
  ("Africa/Casablanca",
    "-1820,3600d,0,3600,0|-tblt9gCdi7nxgB3huk0C51k40B2znuk0C2dp9g0B776k0C8nt2s0B657w0C3ifxg0B3jp8" ++
    "0Cva040B4qak0Ce1ms0B7pp80Ccnms0B3afw0C2xi840Dxqqk0Cbp56s0B4qak0Ce1ms0B45x80Cd2g40B51ek0Cc8tg" ++
    "0B64ak0Ce1sc0B47uo0C1leo0B23xc0Casw00B3lmo0C1qyo0B40g00C7x6o0B4mo00C1stc0B4deo0C7x6o0B3ylc0C" ++
    "1stc0B51hc0C7x6o0B3lmo0C1stc0B5reo0C7k800B2vpc0C25s00B64dc0C7k800B2iqo0C1stc0Bgkao0C1stc0Bg7" ++
    "c00C25s00Bg7c00C1stc0Bg7c00C25s00Bg7c00C1stc0Bgkao0C1stc0Bg7c00C25s00Bg7c00C1stc0Bgkao0C1stc" ++
    "0Bg7c00C25s00Bg7c00C1stc0Bg7c00C25s00Bg7c00C1stc0Bgkao0C1stc0Bg7c00C25s00Bg7c00C1stc0Bg7c00C" ++
    "25s00Bg7c00C25s00Bg7c00C1stc0Bg7c00C25s00Bg7c00C1stc0Bgkao0C1stc0Bg7c00C25s00Bg7c00C1stc0Bg7" ++
    "c00C25s00Bg7c00C25s00Bg7c00C1stc0Bg7c00C25s00Bg7c00C1stc0Bgkao0C1stc0Bg7c00C25s00Bg7c00C1stc" ++
    "0Bg7c00C25s00Bg7c00C25s00Bg7c00C1stc0Bg7c00C25s00Bg7c00C1stc0Bgkao0C1stc0Bg7c00C25s00Bg7c00C" ++
    "1stc0Bg7c00C25s00Bg7c00C25s00Bg7c00C1stc0Bg7c00C25s00Bg7c00C1stc0Bgkao0C1stc0Bg7c00C25s00Bg7" ++
    "c00C1stc0Bg7c00C25s00Bg7c00C25s00Bg7c00C1stc0Bg7c00C25s00Bg7c00C1stc0Bgkao0C1stc0Bg7c00C25s0" ++
    "0Bg7c00C1stc0Bg7c00C25s00Bg7c00C25s00Bg7c00C1stc0Bg7c00C25s00Bg7c00C1stc0Bgkao0C1stc0Bg7c00C" ++
    "25s00Bg7c00C1stc0Bg7c00C25s00Bg7c00C1stc0Bgkao0C1stc0Bg7c00C25s00Bg7c00C1stc0Bgkao0C1stc0Bg7" ++
    "c00C25s00B|<+00>0<+01>,0/0,J365/25"),
  ("Africa/Ceuta",
    "-1276,0,3600d,0,0,3600,7200d,3600|-100edc0B91vek0C7x3w0D2vt440C8sqs0Essyk0C8n6s0E9px80C905g0" ++
    "Ea2yo0C902o0Ek69dc0C657w0D3ifxg0C3jp80Dva040C4qak0De1ms0C7pp80Dcnms0C3afw0D2xi840F129us0G9d1" ++
    "c0H9d1c0G9d1c0H9d1c0G9d1c0H9d1c0G9d1c0H9d1c0G9q000H9d1c0G9d1c0H9d1c0G9d1c0H9d1c0G9d1c0H9d1c0" ++
    "G9d1c0H9d1c0G9d1c0H9q000Gasw00H7x6o0Gasw00H7x6o0Gasw00H7x6o0Gb5uo0H7k800Gb5uo0H7k800Gb5uo0H7" ++
    "x6o0Gasw00H7x6o0Gasw00H7x6o0Gb5uo0H7k800Gb5uo0H7k800Gb5uo0H7k800Gb5uo0H7x6o0Gasw00H7x6o0Gasw" ++
    "00H7x6o0Gb5uo0H7k800Gb5uo0H7k800Gb5uo0H7x6o0Gasw00H7x6o0Gasw00H7x6o0Gasw00H7x6o0Gb5uo0H7k800" ++
    "Gb5uo0H7k800Gb5uo0H7x6o0Gasw00H7x6o0Gasw00H7x6o0Gb5uo0H7k800Gb5uo0H7k800Gb5uo0H7x6o0Gasw00H7" ++
    "x6o0Gasw00H7x6o0Gasw00H7x6o0Gb5uo0H7k800Gb5uo0H7k800Gb5uo0H7x6o0Gasw00H7x6o0Gasw00H7x6o0Gb5u" ++
    "o0H7k800Gb5uo0H7k800Gb5uo0H7k800Gb5uo0H7x6o0Gasw00H7x6o0Gasw00H|CET-1CEST,M3.5.0,M10.5.0/3"),
  ("Africa/Conakry",
    "-3292,0,-3600,0|-u9reskBbk944kCdhlk40B|GMT0"),
  ("Africa/Dakar",
    "-4184,-3600,0|-u9re3sBfcoa7sC|GMT0"),
  ("Africa/Dar_es_Salaam",
    "9428,10800,9900,10800|-kcrtxwB8ve49wC6sagp0B|EAT-3"),
  ("Africa/Djibouti",
    "10356,10800|-uj8fzoB|EAT-3"),
  ("Africa/Douala",
    "2328,3600|-u9rj4oB|WAT-1"),
  ("Africa/El_Aaiun",
    "-3168,-3600,3600d,0|-isdxk0Bm2g0c0Dvek0C4qak0De1ms0C7pp80Dcnms0C3afw0Dfke5g0C4qak0De1ms0C45x" ++
    "80Dd2g40C51ek0Dc8tg0C64ak0De1sc0C47uo0D1leo0C23xc0Dasw00C3lmo0D1qyo0C40g00D7x6o0C4mo00D1stc0" ++
    "C4deo0D7x6o0C3ylc0D1stc0C51hc0D7x6o0C3lmo0D1stc0C5reo0D7k800C2vpc0D25s00C64dc0D7k800C2iqo0D1" ++
    "stc0Cgkao0D1stc0Cg7c00D25s00Cg7c00D1stc0Cg7c00D25s00Cg7c00D1stc0Cgkao0D1stc0Cg7c00D25s00Cg7c" ++
    "00D1stc0Cgkao0D1stc0Cg7c00D25s00Cg7c00D1stc0Cg7c00D25s00Cg7c00D1stc0Cgkao0D1stc0Cg7c00D25s00" ++
    "Cg7c00D1stc0Cg7c00D25s00Cg7c00D25s00Cg7c00D1stc0Cg7c00D25s00Cg7c00D1stc0Cgkao0D1stc0Cg7c00D2" ++
    "5s00Cg7c00D1stc0Cg7c00D25s00Cg7c00D25s00Cg7c00D1stc0Cg7c00D25s00Cg7c00D1stc0Cgkao0D1stc0Cg7c" ++
    "00D25s00Cg7c00D1stc0Cg7c00D25s00Cg7c00D25s00Cg7c00D1stc0Cg7c00D25s00Cg7c00D1stc0Cgkao0D1stc0" ++
    "Cg7c00D25s00Cg7c00D1stc0Cg7c00D25s00Cg7c00D25s00Cg7c00D1stc0Cg7c00D25s00Cg7c00D1stc0Cgkao0D1" ++
    "stc0Cg7c00D25s00Cg7c00D1stc0Cg7c00D25s00Cg7c00D25s00Cg7c00D1stc0Cg7c00D25s00Cg7c00D1stc0Cgka" ++
    "o0D1stc0Cg7c00D25s00Cg7c00D1stc0Cg7c00D25s00Cg7c00D25s00Cg7c00D1stc0Cg7c00D25s00Cg7c00D1stc0" ++
    "Cgkao0D1stc0Cg7c00D25s00Cg7c00D1stc0Cg7c00D25s00Cg7c00D1stc0Cgkao0D1stc0Cg7c00D25s00Cg7c00D1" ++
    "stc0Cgkao0D1stc0Cg7c00D25s00C|<+00>0<+01>,0/0,J365/25"),
  ("Africa/Freetown",
    "-3180,-3180,-2400d,-3600,0|-19xcavoBgfpuo0Da4v6zoC681qoD7vcxcCawkeoD7vcxcCawkeoD7vcxcCayf2oD" ++
    "7vcxcCawkeoD7vcxcCawkeoD7vcxcCe1j2oD4qe9cC7dqoD16dy9cE|GMT0"),
  ("Africa/Gaborone",
    "6220,5400,7200,10800d|-18cyvgsB9h5hysCl5xqu0D9cyk0C|CAT-2"),
  ("Africa/Harare",
    "7452,7200|-yvtf30B|CAT-2"),
  ("Africa/Johannesburg",
    "6720,5400,10800d,7200|-14nj6ioB5rpt0oDkn7o60C9cyk0D9d440C9cyk0D|SAST-2"),
  ("Africa/Juba",
    "7588,10800d,7200,10800,7200|-kcrsisCkixuysB8l6k0Ca4w40B8n180Ca6qs0B8n180Ca31g0B8ovw0Ca16s0B8" ++
    "qqk0C9zc40B8sl80C9xhg0B8wak0C9ts40B8y580Ca4w40B8n180Ca31g0B8ovw0Ca16s0B8sl80C9xhg0B8ufw0C9vm" ++
    "s0B8wak0C9ts40B8y580Ca4w40B8ovw0Ca16s0B8qqk0C7frw40Dazg180C|CAT-2"),
  ("Africa/Kampala",
    "7780,10800,9000,9900,10800|-lnse04Bs8lo4C9e6420D4p4vb0B|EAT-3"),
  ("Africa/Khartoum",
    "7808,10800d,7200,10800,7200|-kcrsowCkixv4wB8l6k0Ca4w40B8n180Ca6qs0B8n180Ca31g0B8ovw0Ca16s0B8" ++
    "qqk0C9zc40B8sl80C9xhg0B8wak0C9ts40B8y580Ca4w40B8n180Ca31g0B8ovw0Ca16s0B8sl80C9xhg0B8ufw0C9vm" ++
    "s0B8wak0C9ts40B8y580Ca4w40B8ovw0Ca16s0B8qqk0C7frw40D9ac180C|CAT-2"),
  ("Africa/Kigali",
    "7216,7200|-i1ulkgB|CAT-2"),
  ("Africa/Kinshasa",
    "3672,3600|-11ngdi0B|WAT-1"),
  ("Africa/Lagos",
    "815,0,1800,3600|-xnxnanB1kdnanA2ve7ddC2yfgknD|WAT-1"),
  ("Africa/Libreville",
    "2268,3600|-u9rj30B|WAT-1"),
  ("Africa/Lome",
    "292,0|-146nmw4B|GMT0"),
  ("Africa/Luanda",
    "3176,3124,3600|-14phh48Bafpx08C|WAT-1"),
  ("Africa/Lubumbashi",
    "6592,3600,7200|-11ngfr4Bbpwyb4C|CAT-2"),
  ("Africa/Lusaka",
    "6788,7200|-yvtekkB|CAT-2"),
  ("Africa/Malabo",
    "2108,0,3600|-u9riykBr44sakC|WAT-1"),
  ("Africa/Maputo",
    "7818,7200|-vu3fd6B|CAT-2"),
  ("Africa/Maseru",
    "6600,7200,10800d|-yvtefcBl5xrrcC9cyk0B|SAST-2"),
  ("Africa/Mbabane",
    "7464,7200|-yvtf3cB|SAST-2"),
  ("Africa/Mogadishu",
    "10888,10800,9000,10800|-13r0wegBje91egCdkj2q0B|EAT-3"),
  ("Africa/Monrovia",
    "-2588,-2588,-2670,0|-19xcbc4Bje5c00Crl202aD|GMT0"),
  ("Africa/Nairobi",
    "8836,9000,10800,9900,10800|-w6p5hgBaiwqjgCsg1a0B3nbte0D2wu1z0C|EAT-3"),
  ("Africa/Ndjamena",
    "3612,3600,7200d|-u9rk4cBzdk5ccC7iak0B|WAT-1"),
  ("Africa/Niamey",
    "508,-3600,0,3600|-u9rhq4Bbk99u4Cdhlek0D|WAT-1"),
  ("Africa/Nouakchott",
    "-3828,0,-3600,0|-u9redoBbk93poCdyodg0B|GMT0"),
  ("Africa/Ouagadougou",
    "-364,0|-u9rh1wB|GMT0"),
  ("Africa/Porto-Novo",
    "628,0,3600|-u9rhtgBbk975gC|WAT-1"),
  ("Africa/Sao_Tome",
    "1616,-2205,0,3600,0|-18vsjwwBem12kwC1jbm840Dirxc0E|GMT0"),
  ("Africa/Tripoli",
    "3164,7200d,3600,7200|-q3gfrwCgl6ajwB422c0Cxado0B4bbo0Cwrpg0B4s580C1kdpg0Dc05bw0C4mqs0B9et80C" ++
    "9d440B9et80C9eys0B9et80C9mdg0B95jw0C9io40B9cyk0C99es0B9et80C9eys0B9et80C9d440B9et80Cb2840D3c" ++
    "f3w0C9kis0B9et80D7vqyw0C75eo0Basw00D|EET-2"),
  ("Africa/Tunis",
    "2444,561,7200d,3600,3600,7200d|-1a9dr7wBfke44bEenxevlCb5uo0D53c00Cu8w00E7x9g0Fc8w80E7k800Fz3" ++
    "w0Eew40F8bx80E9d440F9nx00E925o0F8l100Egi3440C7k800Db9k00C7vc00D51mw00C5ytc0D9d1c0C9d1c0Db9k0" ++
    "0C7thc0D7m0tc0C7tk40D93us0Cb5uo0D7k800Cb5uo0D7x6o0Casw00D|CET-1"),
  ("Africa/Windhoek",
    "4104,5400,7200,10800d,7200,3600,7200d,7200|-14nj4i0B5rpr00Ckn7o60D9cyk0Coj2nw0E235k00F8lho0G" ++
    "ast80F7x9g0Gb5rw0F7kas0Gb5rw0F7x9g0Gast80F7x9g0Gast80F7x9g0Gast80F7x9g0Gast80F7x9g0Gb5rw0F7k" ++
    "as0Gb5rw0F7x9g0Gast80F7x9g0Gast80F7x9g0Gast80F7x9g0Gast80F7x9g0Gb5rw0F7x9g0Gast80F7x9g0Gast8" ++
    "0F7x9g0Gast80F7x9g0Gast80F7x9g0Gb5rw0F7kas0Gb5rw0F7x9g0Gast80F7x9g0Gast80F7x9g0Gast80F7x9g0G" ++
    "2m7o0E|CAT-2")]

end MessageTemplate.Zone
